import IdentityClient.Json.Record

/-!
# JSON documents

What a JSON document is, apart from any reader of one. The tokens with a spelling of their own, texts and numbers, are
kept as they are written (`TextLiteral`, `NumberLiteral`), so what a reader makes of them is said of the tree
(`Value`). Where a tree stands in a text, and what follows it there, is a relation (`Stands`): blanks may stand between
any two tokens.
-/

namespace IdentityClient.Json

/-! ### Texts -/

/-- A piece of a text literal. In a sequence of bytes a plain piece is a byte, and a character may take several. -/
inductive Piece where
  | plain (c : Char) (fits : c ≠ '"' ∧ c ≠ '\\' ∧ 0x20 ≤ c.toNat)
  | escaped (letter c : Char) (named : simpleEscape? letter = some c)
  | code (a b c d : Char) (n : Nat) (spelled : fourHex a b c d = some n)

def Piece.chars : Piece → List Char
  | plain c _ => [c]
  | escaped letter _ _ => ['\\', letter]
  | code a b c d _ _ => ['\\', 'u', a, b, c, d]

/-- What stands between the quotes. -/
abbrev TextLiteral := List Piece

namespace TextLiteral

def chars (t : TextLiteral) : List Char := t.flatMap Piece.chars

variable {t : TextLiteral} {rest : List Char}

theorem chars_append (t t' : TextLiteral) : chars (t ++ t') = chars t ++ chars t' := List.flatMap_append

theorem plain_append {c : Char} {fits : c ≠ '"' ∧ c ≠ '\\' ∧ 0x20 ≤ c.toNat} :
    chars (.plain c fits :: t) ++ rest = c :: (chars t ++ rest) := rfl

theorem escaped_append {letter c : Char} {named : simpleEscape? letter = some c} :
    chars (.escaped letter c named :: t) ++ rest = '\\' :: letter :: (chars t ++ rest) := rfl

theorem code_append {a b c d : Char} {n : Nat} {spelled : fourHex a b c d = some n} :
    chars (.code a b c d n spelled :: t) ++ rest = '\\' :: 'u' :: a :: b :: c :: d :: (chars t ++ rest) := rfl

/-- The units that a literal stands for, unless it has half a surrogate pair. -/
def units (u : Units) : TextLiteral → Except Fault (List Char)
  | [] => .ok []
  | .plain c _ :: t => (units u t).map (c :: ·)
  | .escaped _ c _ :: t => (units u t).map (u.spell c ++ ·)
  | .code _ _ _ _ n _ :: t =>
    if 0xDC00 ≤ n ∧ n ≤ 0xDFFF then .error .loneSurrogate
    else if n < 0xD800 ∨ 0xDBFF < n then (units u t).map (u.spell (Char.ofNat n) ++ ·)
    else match t with
      | .code _ _ _ _ m _ :: t =>
        if m < 0xDC00 ∨ 0xDFFF < m then .error .loneSurrogate
        else (units u t).map (u.spell (Char.ofNat ((n - 0xD800) * 0x400 + (m - 0xDC00) + 0x10000)) ++ ·)
      | _ => .error .unfinishedSurrogate

/-- The text that a literal stands for, or why it stands for none. -/
def read (u : Units) (t : TextLiteral) : Except Fault String :=
  match units u t with
  | .error e => .error e
  | .ok us => u.read us

end TextLiteral

/-! ### Numbers -/

structure Digits where
  chars : List Char
  nonempty : chars ≠ []
  digits : ∀ c ∈ chars, c.isDigit

structure Exponent where
  mark : Char
  marks : mark = 'e' ∨ mark = 'E'
  sign : List Char
  signs : sign = [] ∨ sign = ['+'] ∨ sign = ['-']
  digits : Digits

structure NumberLiteral where
  negative : Bool
  whole : Digits
  /-- No digit follows a leading zero. -/
  canonical : whole.chars.head? = some '0' → whole.chars = ['0']
  fraction : Option Digits
  exponent : Option Exponent

namespace NumberLiteral

def exponentChars (e : Option Exponent) : List Char :=
  match e with
  | none => []
  | some e => e.mark :: (e.sign ++ e.digits.chars)

def fractionChars (f : Option Digits) : List Char :=
  match f with
  | none => []
  | some f => '.' :: f.chars

/-- What stands behind the sign. -/
def unsigned (n : NumberLiteral) : List Char :=
  n.whole.chars ++ (fractionChars n.fraction ++ exponentChars n.exponent)

def chars (n : NumberLiteral) : List Char := if n.negative then '-' :: n.unsigned else n.unsigned

end NumberLiteral

/-! ### Trees and where they stand -/

inductive Value where
  | null
  | bool (b : Bool)
  | number (n : NumberLiteral)
  | text (t : TextLiteral)
  | list (items : List Value)
  | object (members : List (TextLiteral × Value))

/-- What can stand somewhere in a document: a value, a member, or what is left of a list or an object, with its end. -/
inductive Part where
  | value (v : Value)
  /-- All that follows the opening bracket. -/
  | items (vs : List Value)
  /-- All that follows an item. -/
  | moreItems (vs : List Value)
  | member (m : TextLiteral × Value)
  | members (ms : List (TextLiteral × Value))
  | moreMembers (ms : List (TextLiteral × Value))

/-- The part stands at the front of a text, with `rest` behind it. A value stands there at once, all else may have
blanks before it. -/
inductive Stands : Part → (cs : List Char) → (rest : List Char) → Prop where
  | null (rest : List Char) : Stands (.value .null) ('n' :: 'u' :: 'l' :: 'l' :: rest) rest
  | yes (rest : List Char) : Stands (.value (.bool true)) ('t' :: 'r' :: 'u' :: 'e' :: rest) rest
  | no (rest : List Char) : Stands (.value (.bool false)) ('f' :: 'a' :: 'l' :: 's' :: 'e' :: rest) rest
  | number (n : NumberLiteral) (rest : List Char) : Stands (.value (.number n)) (n.chars ++ rest) rest
  | text (t : TextLiteral) (rest : List Char) : Stands (.value (.text t)) ('"' :: (t.chars ++ '"' :: rest)) rest
  | list {vs : List Value} {cs rest : List Char} (inside : Stands (.items vs) cs rest) :
      Stands (.value (.list vs)) ('[' :: cs) rest
  | object {ms : List (TextLiteral × Value)} {cs rest : List Char} (inside : Stands (.members ms) cs rest) :
      Stands (.value (.object ms)) ('\x7b' :: cs) rest
  | noItems {cs rest : List Char} (closes : skipBlank cs = ']' :: rest) : Stands (.items []) cs rest
  | items {v : Value} {vs : List Value} {cs mid rest : List Char} (first : Stands (.value v) (skipBlank cs) mid)
      (later : Stands (.moreItems vs) mid rest) : Stands (.items (v :: vs)) cs rest
  | lastItem {cs rest : List Char} (closes : skipBlank cs = ']' :: rest) : Stands (.moreItems []) cs rest
  | nextItem {v : Value} {vs : List Value} {cs mid rest : List Char} (comma : skipBlank cs = ',' :: mid)
      (later : Stands (.items (v :: vs)) mid rest) : Stands (.moreItems (v :: vs)) cs rest
  | member {t : TextLiteral} {v : Value} {cs mid later rest : List Char}
      (name : skipBlank cs = '"' :: (t.chars ++ '"' :: mid)) (colon : skipBlank mid = ':' :: later)
      (value : Stands (.value v) (skipBlank later) rest) : Stands (.member (t, v)) cs rest
  | noMembers {cs rest : List Char} (closes : skipBlank cs = '\x7d' :: rest) : Stands (.members []) cs rest
  | members {m : TextLiteral × Value} {ms : List (TextLiteral × Value)} {cs mid rest : List Char}
      (first : Stands (.member m) cs mid) (later : Stands (.moreMembers ms) mid rest) :
      Stands (.members (m :: ms)) cs rest
  | lastMember {cs rest : List Char} (closes : skipBlank cs = '\x7d' :: rest) : Stands (.moreMembers []) cs rest
  | nextMember {m : TextLiteral × Value} {ms : List (TextLiteral × Value)} {cs mid rest : List Char}
      (comma : skipBlank cs = ',' :: mid) (later : Stands (.members (m :: ms)) mid rest) :
      Stands (.moreMembers (m :: ms)) cs rest

/-- The text is a document that holds the value, and nothing beside it. -/
def Document (cs : List Char) (v : Value) : Prop :=
  ∃ rest, Stands (.value v) (skipBlank cs) rest ∧ skipBlank rest = []

end IdentityClient.Json
