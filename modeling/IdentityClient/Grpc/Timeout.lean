import IdentityClient.Headers
import IdentityClient.Time

/-!
# The time budget of a call

A caller states the budget in the `grpc-timeout` header: up to eight digits and a unit. The number is
read as an unsigned decimal that may carry a plus sign, and is counted in 64-bit words. A step of the
reading that would end the program says so (`Panic`).
-/

namespace IdentityClient.Grpc

def timeoutHeader : String := "grpc-timeout"

/-- At most eight digits stand before the unit. -/
def maxTimeoutDigits : Nat := 8

inductive TimeUnit where
  | hour
  | minute
  | second
  | milli
  | micro
  | nano
  deriving DecidableEq, Repr

namespace TimeUnit

def ofChar? : Char → Option TimeUnit
  | 'H' => some .hour
  | 'M' => some .minute
  | 'S' => some .second
  | 'm' => some .milli
  | 'u' => some .micro
  | 'n' => some .nano
  | _ => none

def toChar : TimeUnit → Char
  | .hour => 'H'
  | .minute => 'M'
  | .second => 'S'
  | .milli => 'm'
  | .micro => 'u'
  | .nano => 'n'

def nanos : TimeUnit → Nat
  | .hour => 3600 * Duration.nanosPerSecond
  | .minute => 60 * Duration.nanosPerSecond
  | .second => Duration.nanosPerSecond
  | .milli => 1000000
  | .micro => 1000
  | .nano => 1

@[simp] theorem ofChar?_toChar (u : TimeUnit) : ofChar? u.toChar = some u := by cases u <;> rfl

/-- The unit that a text names: one letter and nothing else. -/
def ofText? : List Char → Option TimeUnit
  | [c] => ofChar? c
  | _ => none

end TimeUnit

/-- What ends the program: the last byte of an empty text is to be cut off, a text is to be cut inside a character, or a
product leaves the 64-bit words. -/
inductive Panic where
  | emptyText
  | insideCharacter
  | overflow
  deriving DecidableEq, Repr

/-- The product of two words. -/
def product (a b : UInt64) : Except Panic UInt64 :=
  if a.toNat * b.toNat < UInt64.size then .ok (a * b) else .error .overflow

/-- The span of an amount of units. Hours and minutes are multiplied out to seconds, and what is shorter than a second
is split into seconds and the rest. -/
def TimeUnit.span (unit : TimeUnit) (amount : UInt64) : Except Panic Duration :=
  match unit with
  | .hour => do
    let minutes ← product amount 60
    let secs ← product minutes 60
    pure (.ofSecs secs.toNat)
  | .minute => do
    let secs ← product amount 60
    pure (.ofSecs secs.toNat)
  | .second => pure (.ofSecs amount.toNat)
  | .milli => pure (.ofTicks 1000 amount.toNat)
  | .micro => pure (.ofTicks 1000000 amount.toNat)
  | .nano => pure (.ofTicks 1000000000 amount.toNat)

/-- The value of a run of decimal digits, none if there is no digit or something else. -/
def decimal? (cs : List Char) : Option Nat :=
  if cs.isEmpty || !cs.all Char.isDigit then none
  else some (cs.foldl (fun n c => n * 10 + (c.toNat - '0'.toNat)) 0)

/-- An unsigned number: decimal digits, after a plus sign or without one. -/
def unsigned? : List Char → Option Nat
  | '+' :: digits => decimal? digits
  | digits => decimal? digits

/-- An unsigned number that fits into a 64-bit word. -/
def word? (cs : List Char) : Option UInt64 :=
  (unsigned? cs).bind fun n => if n < UInt64.size then some (UInt64.ofNat n) else none

/-- Cuts off the last byte of a text. -/
def cutLast (text : List Char) : Except Panic (List Char × List Char) :=
  match (Utf8.encodeChars text).length with
  | 0 => .error .emptyText
  | n + 1 => match Utf8.cutAt? text n with
    | some parts => .ok parts
    | none => .error .insideCharacter

/-- Reads a number and the letter of its unit. -/
def readParts (number letter : List Char) : Except Panic (Option Duration) :=
  match word? number, TimeUnit.ofText? letter with
  | some amount, some unit => (unit.span amount).map some
  | _, _ => .ok none

/-- Reads the budget that a header text states. -/
def readText (text : List Char) : Except Panic (Option Duration) :=
  let length := (Utf8.encodeChars text).length
  if length < 2 ∨ maxTimeoutDigits + 1 < length then .ok none
  else do
    let (number, letter) ← cutLast text
    readParts number letter

/-- Reads the budget of a call with these headers; only the first `grpc-timeout` value counts. -/
def readTimeout (headers : Headers) : Except Panic (Option Duration) :=
  match (headers.get? timeoutHeader).bind HeaderValue.toString? with
  | some text => readText text.toList
  | none => .ok none

/-- The budget of a call with these headers. -/
def timeout (headers : Headers) : Option Duration := (readTimeout headers).toOption.join

/-- The smallest unit in which the budget needs at most eight digits, and the digits; what the unit
cannot express is cut off. -/
def timeoutText (d : Duration) : String :=
  let units : List TimeUnit := [.nano, .micro, .milli, .second, .minute, .hour]
  let fits (u : TimeUnit) : Bool := d.nanos / u.nanos < Nat.pow 10 maxTimeoutDigits
  let unit := (units.find? fits).getD .hour
  toString (d.nanos / unit.nanos) ++ String.ofList [unit.toChar]

end IdentityClient.Grpc
