/-!
# Ways to match in a query

Each way has a number on the wire and a name in capitals, which is derived from its label.
-/

namespace IdentityClient

/-- A type whose values are numbered in order and named after a common stem. -/
class Enumeration (α : Type) where
  all : List α
  stem : String
  label : α → String

namespace Enumeration

/-- `EqualsIgnoreCase` becomes `EQUALS_IGNORE_CASE`. -/
def capitals (label : String) : String :=
  let parts := label.toList.map fun c =>
    if c.isUpper then ['_', c] else [c.toUpper]
  String.ofList (parts.flatten.drop 1)

variable {α : Type} [Enumeration α] [DecidableEq α]

def number (a : α) : Nat := (all : List α).idxOf a

/-- The name of a value in message definitions. -/
def name (a : α) : String := stem α ++ "_" ++ capitals (label a)

def ofNumber? (n : Int) : Option α := if n < 0 then none else (all : List α)[n.toNat]?

def ofName? (text : String) : Option α := (all : List α).find? fun a => name a == text

/-- What is said of a number that stands for no value. -/
def unknownNumber (n : Int) : String := "unknown enumeration value " ++ toString n

end Enumeration

/-- How a text is matched. -/
inductive TextQueryMethod where
  | equals
  | equalsIgnoreCase
  | startsWith
  | startsWithIgnoreCase
  | contains
  | containsIgnoreCase
  | endsWith
  | endsWithIgnoreCase
  deriving DecidableEq, Repr

instance : Enumeration TextQueryMethod where
  all := [.equals, .equalsIgnoreCase, .startsWith, .startsWithIgnoreCase, .contains,
    .containsIgnoreCase, .endsWith, .endsWithIgnoreCase]
  stem := "TEXT_QUERY_METHOD"
  label
    | .equals => "Equals"
    | .equalsIgnoreCase => "EqualsIgnoreCase"
    | .startsWith => "StartsWith"
    | .startsWithIgnoreCase => "StartsWithIgnoreCase"
    | .contains => "Contains"
    | .containsIgnoreCase => "ContainsIgnoreCase"
    | .endsWith => "EndsWith"
    | .endsWithIgnoreCase => "EndsWithIgnoreCase"

/-- How membership in a list is tested. -/
inductive ListQueryMethod where
  | member
  deriving DecidableEq, Repr

instance : Enumeration ListQueryMethod where
  all := [.member]
  stem := "LIST_QUERY_METHOD"
  label | .member => "In"

/-- How a moment is compared. -/
inductive TimestampQueryMethod where
  | equals
  | greater
  | greaterOrEquals
  | less
  | lessOrEquals
  deriving DecidableEq, Repr

instance : Enumeration TimestampQueryMethod where
  all := [.equals, .greater, .greaterOrEquals, .less, .lessOrEquals]
  stem := "TIMESTAMP_QUERY_METHOD"
  label
    | .equals => "Equals"
    | .greater => "Greater"
    | .greaterOrEquals => "GreaterOrEquals"
    | .less => "Less"
    | .lessOrEquals => "LessOrEquals"

end IdentityClient
