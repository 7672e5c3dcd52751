import IdentityClient.Text.Utf8

/-!
# IPv4 addresses

An address is written as four decimal numbers. In a URL it may also be written with fewer numbers, in
octal or in hexadecimal; a server name allows the four decimals only.
-/

namespace IdentityClient

/-- An address as one number of 32 bits. -/
structure Ipv4 where
  bits : UInt32
  deriving DecidableEq, Repr, Inhabited

namespace Ipv4

/-- The number at `index`, counted from the right. -/
def part (a : Ipv4) (index : Nat) : Nat := a.bits.toNat / Nat.pow 256 index % 256

def render (a : Ipv4) : String :=
  let p (i : Nat) : String := toString (a.part i)
  p 3 ++ "." ++ p 2 ++ "." ++ p 1 ++ "." ++ p 0

def decimalValue (cs : List Char) : Nat := cs.foldl (fun n c => n * 10 + (c.toNat - '0'.toNat)) 0

/-- A number below 256 in at most three digits, without a leading zero. -/
def strictPart? (cs : List Char) : Option Nat :=
  if cs.isEmpty || !cs.all Char.isDigit || 3 < cs.length || (1 < cs.length && cs.head? == some '0') then
    none
  else
    let n := decimalValue cs
    if n < 256 then some n else none

/-- Cuts a text at the dots in it. -/
def cutDots : List Char → List (List Char)
  | [] => [[]]
  | c :: cs =>
    if c = '.' then [] :: cutDots cs
    else match cutDots cs with
      | part :: parts => (c :: part) :: parts
      | [] => [[c]]

def ofParts (a b c d : Nat) : Ipv4 := ⟨UInt32.ofNat (((a * 256 + b) * 256 + c) * 256 + d)⟩

/-- An address as four decimal numbers. -/
def parseStrict? (cs : List Char) : Option Ipv4 :=
  match cutDots cs with
  | [a, b, c, d] => do
    let a ← strictPart? a
    let b ← strictPart? b
    let c ← strictPart? c
    let d ← strictPart? d
    pure (ofParts a b c d)
  | _ => none

/-! ### In URLs -/

def isOctalDigit (c : Char) : Bool := '0' ≤ c && c ≤ '7'

def isHexDigit (c : Char) : Bool := (Hex.value? c).isSome

/-- The value of digits in some base. -/
def valueIn (base : Nat) (cs : List Char) : Nat :=
  cs.foldl (fun n c => n * base + (Hex.value? c).getD 0) 0

/-- A number in a base that its first characters tell; `0x` alone is zero. -/
def number? (cs : List Char) : Option Nat :=
  match cs with
  | [] => none
  | '0' :: 'x' :: rest => if rest.all isHexDigit then some (valueIn 16 rest) else none
  | '0' :: 'X' :: rest => if rest.all isHexDigit then some (valueIn 16 rest) else none
  | '0' :: c :: rest => if (c :: rest).all isOctalDigit then some (valueIn 8 (c :: rest)) else none
  | cs => if cs.all Char.isDigit then some (valueIn 10 cs) else none

/-- The parts of a host, a dot at its end aside. -/
def hostParts (host : List Char) : List (List Char) :=
  let parts := cutDots host
  if parts.getLast? = some [] then parts.dropLast else parts

/-- Whether the last part of a host is a number, so that the host must be an address. -/
def endsInNumber (host : List Char) : Bool :=
  match (hostParts host).getLast? with
  | some last => (!last.isEmpty && last.all Char.isDigit) || (number? last).isSome
  | none => false

/-- Joins numbers: all but the last fill one part each, the last fills what is left. -/
def join? (numbers : List Nat) : Option Ipv4 :=
  match numbers.getLast? with
  | none => none
  | some last =>
    let leading := numbers.dropLast
    let room := 4 - leading.length
    if Nat.pow 256 room ≤ last ∨ leading.any (255 < ·) then none
    else
      let high := leading.foldl (fun n part => n * 256 + part) 0
      some ⟨UInt32.ofNat (high * Nat.pow 256 room + last)⟩

/-- An address as it may be written in a URL. -/
def parseLoose? (host : List Char) : Option Ipv4 :=
  let parts := hostParts host
  if 4 < parts.length then none
  else match parts.mapM number? with
    | none => none
    | some numbers => join? numbers

end Ipv4

end IdentityClient
