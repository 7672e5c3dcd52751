import IdentityClient.Json.Fault
import IdentityClient.Text.Utf8

/-!
# Reading JSON, piece by piece

Each reader takes the remaining characters and gives what it read with the rest. A document may come
as text or as bytes; then each character here stands for one byte, and `Units` says how a character
of a text is spelled in such units and how a run of units is turned into text.
-/

namespace IdentityClient.Json

/-- How the characters of the input relate to the characters of the texts in it. -/
structure Units where
  spell : Char → List Char
  read : List Char → Except Fault String

namespace Units

/-- The input is text. -/
def text : Units := ⟨fun c => [c], fun cs => .ok (String.ofList cs)⟩

/-- A byte as a unit. -/
def ofByte (b : UInt8) : Char := Char.ofNat b.toNat

/-- The input is a sequence of bytes, one per character. -/
def bytes : Units where
  spell c := (String.utf8EncodeChar c).map ofByte
  read cs :=
    match Utf8.decode (cs.map fun c => UInt8.ofNat c.toNat) with
    | .ok s => .ok s
    | .error _ => .error .notUtf8

end Units

/-- A reader of `α`. -/
abbrev Reader (α : Type) := List Char → Except Fault (α × List Char)

def isBlank (c : Char) : Bool := c == ' ' || c == '\n' || c == '\t' || c == '\r'

def skipBlank (cs : List Char) : List Char := cs.dropWhile isBlank

theorem length_skipBlank_le (cs : List Char) : (skipBlank cs).length ≤ cs.length :=
  (List.dropWhile_suffix _).length_le

/-- Reads the rest of a word such as `null`, one character at a time. -/
def readWord : List Char → Reader Unit
  | [], cs => .ok ((), cs)
  | _ :: _, [] => .error .endInValue
  | expected :: word, c :: cs => if c = expected then readWord word cs else .error .badWord

/-! ### Texts -/

/-- The value of four hexadecimal digits. -/
def fourHex (a b c d : Char) : Option Nat := do
  let a ← Hex.value? a
  let b ← Hex.value? b
  let c ← Hex.value? c
  let d ← Hex.value? d
  pure (((a * 16 + b) * 16 + c) * 16 + d)

/-- Reads four hexadecimal digits; a text that ends within the next four bytes ends too early. -/
def readFourHex (cs : List Char) : Except Fault (Nat × List Char) :=
  let early : Fault :=
    if (Utf8.encodeChars (cs.take 4)).length < 4 then .endInText else .badEscape
  match cs with
  | a :: b :: c :: d :: rest =>
    match fourHex a b c d with
    | some n => .ok (n, rest)
    | none => .error .badEscape
  | _ => .error early

/-- Reads what follows `\u` when a text is kept. -/
def readUnicode (cs : List Char) : Except Fault (Char × List Char) :=
  match readFourHex cs with
  | .error e => .error e
  | .ok (n, rest) =>
    if 0xDC00 ≤ n ∧ n ≤ 0xDFFF then .error .loneSurrogate
    else if n < 0xD800 ∨ 0xDBFF < n then .ok (Char.ofNat n, rest)
    else match rest with
      | [] => .error .endInText
      | '\\' :: [] => .error .endInText
      | '\\' :: 'u' :: rest =>
        match readFourHex rest with
        | .error e => .error e
        | .ok (m, rest) =>
          if m < 0xDC00 ∨ 0xDFFF < m then .error .loneSurrogate
          else .ok (Char.ofNat ((n - 0xD800) * 0x400 + (m - 0xDC00) + 0x10000), rest)
      | _ => .error .unfinishedSurrogate

/-- The character that a one-letter escape stands for. -/
def simpleEscape? : Char → Option Char
  | '"' => some '"'
  | '\\' => some '\\'
  | '/' => some '/'
  | 'b' => some '\x08'
  | 'f' => some '\x0c'
  | 'n' => some '\n'
  | 'r' => some '\r'
  | 't' => some '\t'
  | _ => none

/-- Reads what follows a backslash when a text is kept. -/
def readEscape : List Char → Except Fault (Char × List Char)
  | [] => .error .endInText
  | 'u' :: rest => readUnicode rest
  | c :: rest =>
    match simpleEscape? c with
    | some d => .ok (d, rest)
    | none => .error .badEscape

/-- Collects the units of a text up to its closing quote; `fuel` bounds the characters read. -/
def readUnits (u : Units) : (fuel : Nat) → (acc : List Char) → Reader (List Char)
  | 0, _, _ => .error .endInText
  | _ + 1, _, [] => .error .endInText
  | fuel + 1, acc, c :: rest =>
    if c = '"' then .ok (acc.reverse, rest)
    else if c = '\\' then
      match readEscape rest with
      | .error e => .error e
      | .ok (d, rest) => readUnits u fuel ((u.spell d).reverse ++ acc) rest
    else if c.toNat < 0x20 then .error .controlInText
    else readUnits u fuel (c :: acc) rest

/-- Reads a text after its opening quote. -/
def readText (u : Units) : Reader String := fun cs =>
  match readUnits u (cs.length + 1) [] cs with
  | .error e => .error e
  | .ok (units, rest) =>
    match u.read units with
    | .error e => .error e
    | .ok s => .ok (s, rest)

/-- Passes what follows a backslash when a text is not kept: surrogates need not pair up. -/
def skipEscape : List Char → Except Fault (List Char)
  | [] => .error .endInText
  | 'u' :: rest =>
    match readFourHex rest with
    | .error e => .error e
    | .ok (_, rest) => .ok rest
  | c :: rest =>
    match simpleEscape? c with
    | some _ => .ok rest
    | none => .error .badEscape

def skipTextFrom : (fuel : Nat) → List Char → Except Fault (List Char)
  | 0, _ => .error .endInText
  | _ + 1, [] => .error .endInText
  | fuel + 1, c :: rest =>
    if c = '"' then .ok rest
    else if c = '\\' then
      match skipEscape rest with
      | .error e => .error e
      | .ok rest => skipTextFrom fuel rest
    else if c.toNat < 0x20 then .error .controlInText
    else skipTextFrom fuel rest

/-- Passes a text after its opening quote. -/
def skipText (cs : List Char) : Except Fault (List Char) := skipTextFrom (cs.length + 1) cs

/-! ### Numbers -/

def maxWord : Nat := Nat.pow 2 64 - 1
def maxExponent : Nat := Nat.pow 2 31 - 1

/-- A number that was read: a whole one within 64 bits, or a double. -/
inductive Number where
  | integer (n : Int)
  | float (x : Binary64)
  deriving DecidableEq, Repr

def Number.found : Number → Found
  | .integer n => .integer n
  | .float x => .float x

def digitValue (c : Char) : Nat := c.toNat - '0'.toNat

/-- `significand · 10^exponent`, each step rounded to a double; powers past 308 go in steps. -/
def composeFrom (negative : Bool) : (fuel : Nat) → Binary64 → Int → Except Fault Binary64
  | 0, f, _ => .ok { f with negative }
  | fuel + 1, f, exponent =>
    if exponent.natAbs ≤ 308 then
      match Binary64.ofNat (Nat.pow 10 exponent.natAbs) with
      | none => .error .numberTooLarge
      | some p =>
        if 0 ≤ exponent then
          match f.scaleUp p with
          | none => .error .numberTooLarge
          | some g => .ok { g with negative }
        else
          match f.scaleDown p with
          | none => .error .numberTooLarge
          | some g => .ok { g with negative }
    else if f.isZero then .ok { f with negative }
    else if 0 ≤ exponent then .error .numberTooLarge
    else
      match Binary64.ofNat (Nat.pow 10 308) with
      | none => .error .numberTooLarge
      | some p =>
        match f.scaleDown p with
        | none => .error .numberTooLarge
        | some g => composeFrom negative fuel g (exponent + 308)

/-- A decimal as a double. Two divisions by `10^308` already reach zero. -/
def compose (negative : Bool) (significand : Nat) (exponent : Int) : Except Fault Binary64 :=
  match Binary64.ofNat significand with
  | none => .error .numberTooLarge
  | some f => composeFrom negative 4 f exponent

/-- The digits of an exponent, saturating: none when they exceed 31 bits, with the rest from there. -/
def readExponentDigits : (exponent : Nat) → List Char → Option Nat × List Char
  | exponent, [] => (some exponent, [])
  | exponent, c :: rest =>
    if c.isDigit then
      if maxExponent < exponent * 10 + digitValue c then (none, rest.dropWhile Char.isDigit)
      else readExponentDigits (exponent * 10 + digitValue c) rest
    else (some exponent, c :: rest)

/-- Reads an exponent after its `e`. -/
def readExponent (negative : Bool) (significand : Nat) (start : Int) : Reader Number := fun cs =>
  let (down, digits) := match cs with
    | '+' :: rest => (false, rest)
    | '-' :: rest => (true, rest)
    | rest => (false, rest)
  match digits with
  | [] => .error .endInValue
  | c :: rest =>
    if c.isDigit then
      match readExponentDigits (digitValue c) rest with
      | (none, rest) =>
        if significand ≠ 0 ∧ ¬ down then .error .numberTooLarge
        else .ok (.float ⟨negative, 0, Binary64.leastExponent⟩, rest)
      | (some e, rest) =>
        let exponent := if down then start - e else start + e
        match compose negative significand exponent with
        | .error f => .error f
        | .ok x => .ok (.float x, rest)
    else .error .badNumber

/-- Ends a number whose digits are read: an exponent may follow. -/
def finishNumber (negative : Bool) (significand : Nat) (exponent : Int) : Reader Number := fun cs =>
  match cs with
  | 'e' :: rest => readExponent negative significand exponent rest
  | 'E' :: rest => readExponent negative significand exponent rest
  | rest =>
    match compose negative significand exponent with
    | .error e => .error e
    | .ok x => .ok (.float x, rest)

/-- Reads the digits after the point; digits that no longer fit into 64 bits are dropped. -/
def readFraction (negative : Bool) (start : Int) :
    (significand : Nat) → (places : Nat) → Reader Number
  | _, 0, [] => .error .endInValue
  | significand, places + 1, [] => finishNumber negative significand (start - (places + 1)) []
  | significand, places, c :: rest =>
    if c.isDigit then
      if maxWord < significand * 10 + digitValue c then
        finishNumber negative significand (start - places) (rest.dropWhile Char.isDigit)
      else readFraction negative start (significand * 10 + digitValue c) (places + 1) rest
    else if places = 0 then .error .badNumber
    else finishNumber negative significand (start - places) (c :: rest)

/-- Reads what follows the whole part of a number, `dropped` of whose digits did not fit. -/
def afterWhole (negative : Bool) (significand dropped : Nat) : Reader Number := fun cs =>
  match cs with
  | '.' :: rest => readFraction negative dropped significand 0 rest
  | rest => finishNumber negative significand dropped rest

/-- A whole number; `-0` and what lies below 64 signed bits are doubles. -/
def wholeNumber (negative : Bool) (significand : Nat) : Except Fault Number :=
  if ¬ negative then .ok (.integer significand)
  else if significand = 0 ∨ Nat.pow 2 63 < significand then
    match Binary64.ofNat significand with
    | none => .error .numberTooLarge
    | some x => .ok (.float { x with negative := true })
  else .ok (.integer (-(significand : Int)))

/-- Reads the whole part of a number digit by digit. -/
def readWhole (negative : Bool) : (significand : Nat) → Reader Number
  | significand, c :: rest =>
    if c.isDigit then
      if maxWord < significand * 10 + digitValue c then
        let tail := rest.dropWhile Char.isDigit
        afterWhole negative significand (rest.length - tail.length + 1) tail
      else readWhole negative (significand * 10 + digitValue c) rest
    else if c = '.' ∨ c = 'e' ∨ c = 'E' then afterWhole negative significand 0 (c :: rest)
    else match wholeNumber negative significand with
      | .error e => .error e
      | .ok n => .ok (n, c :: rest)
  | significand, [] =>
    match wholeNumber negative significand with
    | .error e => .error e
    | .ok n => .ok (n, [])

/-- Reads a number after its sign. -/
def readNumber (negative : Bool) : Reader Number
  | [] => .error .endInValue
  | '0' :: c :: rest => if c.isDigit then .error .badNumber else readWhole negative 0 (c :: rest)
  | '0' :: [] => readWhole negative 0 []
  | c :: rest => if c.isDigit then readWhole negative (digitValue c) rest else .error .badNumber

/-- Passes the exponent of a number after its `e`. -/
def skipExponent (cs : List Char) : Except Fault (List Char) :=
  let digits := match cs with
    | '+' :: rest => rest
    | '-' :: rest => rest
    | rest => rest
  match digits with
  | c :: rest => if c.isDigit then .ok (rest.dropWhile Char.isDigit) else .error .badNumber
  | [] => .error .badNumber

/-- Passes what may follow the digits of a number. -/
def skipNumberTail (cs : List Char) : Except Fault (List Char) :=
  match cs with
  | 'e' :: rest => skipExponent rest
  | 'E' :: rest => skipExponent rest
  | rest => .ok rest

/-- Passes what follows the whole part of a number. -/
def skipAfterWhole (cs : List Char) : Except Fault (List Char) :=
  match cs with
  | '.' :: c :: rest =>
    if c.isDigit then skipNumberTail (rest.dropWhile Char.isDigit) else .error .badNumber
  | '.' :: [] => .error .badNumber
  | rest => skipNumberTail rest

/-- Passes a number after its sign. -/
def skipNumber (cs : List Char) : Except Fault (List Char) :=
  match cs with
  | [] => .error .badNumber
  | '0' :: c :: rest => if c.isDigit then .error .badNumber else skipAfterWhole (c :: rest)
  | '0' :: [] => .ok []
  | c :: rest => if c.isDigit then skipAfterWhole (rest.dropWhile Char.isDigit) else .error .badNumber

/-! ### Values that are passed over -/

/-- What encloses the value being passed. -/
inductive Frame where
  | list
  | object
  deriving DecidableEq, Repr

def Frame.close : Frame → Char
  | .list => ']'
  | .object => '\x7d'

def Frame.ended : Frame → Fault
  | .list => .endInList
  | .object => .endInObject

def Frame.noComma : Frame → Fault
  | .list => .missingListComma
  | .object => .missingObjectComma

/-- Passes the key of a member and the colon after it. -/
def skipKey (cs : List Char) : Except Fault (List Char) :=
  match skipBlank cs with
  | [] => .error .endInObject
  | '"' :: rest =>
    match skipText rest with
    | .error e => .error e
    | .ok rest =>
      match skipBlank rest with
      | ':' :: rest => .ok rest
      | [] => .error .endInObject
      | _ => .error .missingColon
  | _ => .error .keyNotText

/-- Passes a value that has no parts; none when the value is a list or an object. -/
def skipScalar (c : Char) (rest : List Char) : Except Fault (List Char) :=
  if c = 'n' then (readWord ['u', 'l', 'l'] rest).map (·.2)
  else if c = 't' then (readWord ['r', 'u', 'e'] rest).map (·.2)
  else if c = 'f' then (readWord ['a', 'l', 's', 'e'] rest).map (·.2)
  else if c = '-' then skipNumber rest
  else if c.isDigit then skipNumber (c :: rest)
  else if c = '"' then skipText rest
  else .error .noValue

mutual

/-- Passes one value inside the frames of `stack`, and on to the end of the outermost frame. -/
def skipItem : (fuel : Nat) → (stack : List Frame) → List Char → Except Fault (List Char)
  | 0, _, _ => .error .endInValue
  | fuel + 1, stack, cs =>
    match skipBlank cs with
    | [] => .error .endInValue
    | c :: rest =>
      if c = '[' then skipAfter fuel .list stack false rest
      else if c = '\x7b' then skipAfter fuel .object stack false rest
      else
        match skipScalar c rest with
        | .error e => .error e
        | .ok rest =>
          match stack with
          | [] => .ok rest
          | frame :: stack => skipAfter fuel frame stack true rest

/-- Passes what stands after an item of `frame` (`comma`) or after its opening. -/
def skipAfter :
    (fuel : Nat) → (frame : Frame) → (stack : List Frame) → (comma : Bool) → List Char →
      Except Fault (List Char)
  | 0, _, _, _, _ => .error .endInValue
  | fuel + 1, frame, stack, comma, cs =>
    match skipBlank cs with
    | [] => .error frame.ended
    | c :: rest =>
      if c = ',' ∧ comma then skipEntry fuel frame stack rest
      else if c = frame.close then
        match stack with
        | [] => .ok rest
        | outer :: stack => skipAfter fuel outer stack true rest
      else if comma then .error frame.noComma
      else skipEntry fuel frame stack (c :: rest)

/-- Passes one entry of `frame`: in an object, its key first. -/
def skipEntry : (fuel : Nat) → (frame : Frame) → (stack : List Frame) → List Char → Except Fault (List Char)
  | 0, _, _, _ => .error .endInValue
  | fuel + 1, frame, stack, cs =>
    match frame with
    | .list => skipItem fuel (frame :: stack) cs
    | .object =>
      match skipKey cs with
      | .error e => .error e
      | .ok rest => skipItem fuel (frame :: stack) rest

end

/-- Passes one value of any kind, however deeply nested. -/
def skipValue (cs : List Char) : Except Fault (List Char) := skipItem (3 * cs.length + 3) [] cs

/-! ### Values of the wrong kind -/

/-- The fault of a value that should have been something else; a malformed one has a fault of its own. -/
def wrongKind (u : Units) (expected : String) (cs : List Char) : Fault :=
  match cs with
  | [] => .noValue
  | c :: rest =>
    let fault (r : Except Fault Found) : Fault :=
      match r with
      | .ok found => .wrongKind found expected
      | .error e => e
    if c = 'n' then fault ((readWord ['u', 'l', 'l'] rest).map fun _ => .null)
    else if c = 't' then fault ((readWord ['r', 'u', 'e'] rest).map fun _ => .bool true)
    else if c = 'f' then fault ((readWord ['a', 'l', 's', 'e'] rest).map fun _ => .bool false)
    else if c = '-' then fault ((readNumber true rest).map fun r => r.1.found)
    else if c.isDigit then fault ((readNumber false cs).map fun r => r.1.found)
    else if c = '"' then fault ((readText u rest).map fun r => .text r.1)
    else if c = '[' then .wrongKind .list expected
    else if c = '\x7b' then .wrongKind .object expected
    else .noValue

end IdentityClient.Json
