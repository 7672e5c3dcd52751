/-!
# UTF-8 over lists of bytes

`encode` writes a text, `decode` reads one and says where and how reading failed: at which byte the
valid part ends, and how many bytes the ill-formed sequence spans (none when the text merely stops
inside a character).
-/

namespace IdentityClient

abbrev Bytes := List UInt8

namespace Utf8

/-- The bytes of a list of characters. -/
def encodeChars (cs : List Char) : Bytes := cs.flatMap String.utf8EncodeChar

/-- The bytes of a text. -/
def encode (s : String) : Bytes := encodeChars s.toList

@[simp] theorem encodeChars_nil : encodeChars [] = [] := rfl

@[simp] theorem encodeChars_cons (c : Char) (cs : List Char) :
    encodeChars (c :: cs) = String.utf8EncodeChar c ++ encodeChars cs := rfl

@[simp] theorem encodeChars_append (cs ds : List Char) :
    encodeChars (cs ++ ds) = encodeChars cs ++ encodeChars ds := by
  simp [encodeChars]

/-- Cuts a text at a byte, unless that is inside a character or past the end. -/
def cutAt? : List Char → Nat → Option (List Char × List Char)
  | cs, 0 => some ([], cs)
  | [], _ + 1 => none
  | c :: cs, n + 1 =>
    if c.utf8Size ≤ n + 1 then (cutAt? cs (n + 1 - c.utf8Size)).map fun parts => (c :: parts.1, parts.2) else none

/-- A text is cut where the bytes of a part of it end. -/
theorem cutAt?_eq_some_iff {cs front rest : List Char} {n : Nat} :
    cutAt? cs n = some (front, rest) ↔ cs = front ++ rest ∧ (encodeChars front).length = n := by
  induction cs generalizing n front with
  | nil => cases front <;> cases n <;> simp [cutAt?, eq_comm]
  | cons c cs ih =>
    cases n with
    | zero =>
      cases front with
      | nil => simp [cutAt?, eq_comm]
      | cons d front => simp [cutAt?, String.length_utf8EncodeChar, Nat.ne_of_gt d.utf8Size_pos]
    | succ n =>
      rw [cutAt?]
      constructor
      · intro h
        split at h
        · rename_i fits
          obtain ⟨⟨front', rest'⟩, cut, same⟩ := Option.map_eq_some_iff.1 h
          cases same
          obtain ⟨rfl, length⟩ := ih.1 cut
          rw [encodeChars_cons, List.length_append, String.length_utf8EncodeChar, length]
          exact ⟨rfl, Nat.add_sub_cancel' fits⟩
        · cases h
      · rintro ⟨same, length⟩
        cases front with
        | nil => cases length
        | cons d front =>
          obtain ⟨rfl, rfl⟩ := List.cons.inj same
          rw [encodeChars_cons, List.length_append, String.length_utf8EncodeChar] at length
          rw [if_pos (by omega), ih.2 ⟨rfl, by omega⟩]
          rfl

/-- Where a byte sequence stops being text. -/
structure Fault where
  /-- Length of the longest valid beginning. -/
  validUpTo : Nat
  /-- Length of the ill-formed sequence; none when more bytes could still complete it. -/
  span : Option Nat
  deriving DecidableEq, Repr

/-- `invalid utf-8 sequence of 2 bytes from index 5`. -/
def Fault.message (f : Fault) : String :=
  match f.span with
  | some n => s!"invalid utf-8 sequence of {n} bytes from index {f.validUpTo}"
  | none => s!"incomplete utf-8 byte sequence from index {f.validUpTo}"

/-- A byte that continues a character. -/
def isTail (b : UInt8) : Bool := 0x80 ≤ b && b ≤ 0xBF

/-- The bytes that may follow `lead` in second place, and how many follow it in all. -/
def leadInfo (lead : UInt8) : Option (UInt8 × UInt8 × Nat) :=
  if 0xC2 ≤ lead && lead ≤ 0xDF then some (0x80, 0xBF, 1)
  else if lead == 0xE0 then some (0xA0, 0xBF, 2)
  else if lead == 0xED then some (0x80, 0x9F, 2)
  else if 0xE1 ≤ lead && lead ≤ 0xEF then some (0x80, 0xBF, 2)
  else if lead == 0xF0 then some (0x90, 0xBF, 3)
  else if 0xF1 ≤ lead && lead ≤ 0xF3 then some (0x80, 0xBF, 3)
  else if lead == 0xF4 then some (0x80, 0x8F, 3)
  else none

/-- The payload of a lead byte with `tails` bytes after it. -/
def leadBits (lead : UInt8) (tails : Nat) : Nat := lead.toNat % Nat.pow 2 (6 - tails)

/-- How reading one character went: the character and its length, or the ill-formed span. -/
inductive Step where
  | char (c : Char) (length : Nat)
  | bad (span : Option Nat)

/-- Reads the remaining `tails` continuation bytes of a character whose first `seen` bytes gave `acc`. -/
def readTails (acc : Nat) (seen : Nat) : Nat → Bytes → Step
  | 0, _ => .char (Char.ofNat acc) seen
  | _ + 1, [] => .bad none
  | tails + 1, b :: rest =>
    if isTail b then readTails (acc * 64 + b.toNat % 64) (seen + 1) tails rest else .bad (some seen)

/-- Reads the character at the front of a non-empty byte list. -/
def readChar (lead : UInt8) (rest : Bytes) : Step :=
  if lead < 0x80 then .char (Char.ofNat lead.toNat) 1
  else match leadInfo lead with
    | none => .bad (some 1)
    | some (low, high, tails) =>
      match rest with
      | [] => .bad none
      | b :: rest =>
        if low ≤ b && b ≤ high then
          readTails (leadBits lead tails * 64 + b.toNat % 64) 2 (tails - 1) rest
        else .bad (some 1)

/-- Reads characters until the bytes end, `offset` bytes into the whole; `fuel` bounds their number. -/
def decodeFrom (fuel offset : Nat) (acc : List Char) (bytes : Bytes) : Except Fault (List Char) :=
  match fuel, bytes with
  | _, [] => .ok acc.reverse
  | 0, _ => .ok acc.reverse
  | fuel + 1, b :: rest =>
    match readChar b rest with
    | .char c n => decodeFrom fuel (offset + n) (c :: acc) (rest.drop (n - 1))
    | .bad span => .error ⟨offset, span⟩

/-- The characters that a byte sequence encodes. -/
def decodeChars (bytes : Bytes) : Except Fault (List Char) := decodeFrom bytes.length 0 [] bytes

/-- The text that a byte sequence encodes. -/
def decode (bytes : Bytes) : Except Fault String := (decodeChars bytes).map String.ofList

/-- The text of a byte sequence in which ill-formed sequences read as the replacement character. -/
def decodeLossyFrom (fuel : Nat) (acc : List Char) (bytes : Bytes) : List Char :=
  match fuel, bytes with
  | _, [] => acc.reverse
  | 0, _ => acc.reverse
  | fuel + 1, b :: rest =>
    match readChar b rest with
    | .char c n => decodeLossyFrom fuel (c :: acc) (rest.drop (n - 1))
    | .bad (some n) => decodeLossyFrom fuel ('\ufffd' :: acc) (rest.drop (n - 1))
    | .bad none => ('\ufffd' :: acc).reverse

def decodeLossy (bytes : Bytes) : String := String.ofList (decodeLossyFrom bytes.length [] bytes)

end Utf8

/-! ### Hexadecimal -/

namespace Hex

def digit (n : Nat) : Char := Nat.digitChar n

/-- Two lower-case digits per byte. -/
def encode (bytes : Bytes) : String :=
  String.ofList (bytes.flatMap fun b => [digit (b.toNat / 16), digit (b.toNat % 16)])

def value? (c : Char) : Option Nat :=
  if '0' ≤ c && c ≤ '9' then some (c.toNat - '0'.toNat)
  else if 'a' ≤ c && c ≤ 'f' then some (c.toNat - 'a'.toNat + 10)
  else if 'A' ≤ c && c ≤ 'F' then some (c.toNat - 'A'.toNat + 10)
  else none

def decodeChars : List Char → Option Bytes
  | [] => some []
  | [_] => none
  | a :: b :: rest => do
    let high ← value? a
    let low ← value? b
    let tail ← decodeChars rest
    pure (UInt8.ofNat (high * 16 + low) :: tail)

def decode (s : String) : Option Bytes := decodeChars s.toList

end Hex

end IdentityClient
