import IdentityClient.Text.Utf8

/-!
# Variable-length numbers and field keys

A number is written in groups of seven bits, the lowest first, in at most ten bytes; the tenth may
only hold the last of 64 bits. A field starts with a key that joins its tag and its wire type. Main
statement: reading gives back what was written (`readVarint_writeVarint`).
-/

namespace IdentityClient.Wire

/-- How the value of a field is laid out. -/
inductive WireType where
  | varint
  | sixtyFourBit
  | lengthDelimited
  | startGroup
  | endGroup
  | thirtyTwoBit
  deriving DecidableEq, Repr

namespace WireType

def all : List WireType :=
  [.varint, .sixtyFourBit, .lengthDelimited, .startGroup, .endGroup, .thirtyTwoBit]

def number (w : WireType) : Nat := all.idxOf w

def ofNumber? (n : Nat) : Option WireType := all[n]?

def name : WireType → String
  | .varint => "Varint"
  | .sixtyFourBit => "SixtyFourBit"
  | .lengthDelimited => "LengthDelimited"
  | .startGroup => "StartGroup"
  | .endGroup => "EndGroup"
  | .thirtyTwoBit => "ThirtyTwoBit"

end WireType

/-- What is wrong with the bytes of a message. -/
inductive Fault where
  | varint
  | key (n : Nat)
  | wireTypeNumber (n : Nat)
  | zeroTag
  | wireType (found expected : WireType)
  | endGroup
  | recursion
  | underflow
  | overrun
  | notUtf8
  deriving DecidableEq, Repr

def Fault.message : Fault → String
  | .varint => "invalid varint"
  | .key n => "invalid key value: " ++ toString n
  | .wireTypeNumber n => "invalid wire type value: " ++ toString n
  | .zeroTag => "invalid tag value: 0"
  | .wireType found expected =>
    "invalid wire type: " ++ found.name ++ " (expected " ++ expected.name ++ ")"
  | .endGroup => "unexpected end group tag"
  | .recursion => "recursion limit reached"
  | .underflow => "buffer underflow"
  | .overrun => "delimited length exceeded"
  | .notUtf8 => "invalid string value: data is not UTF-8 encoded"

/-- A fault and the fields in which it lies, the innermost first. -/
structure DecodeError where
  path : List (String × String)
  fault : Fault
  deriving DecidableEq, Repr

namespace DecodeError

def message (e : DecodeError) : String :=
  let places := e.path.map fun p => p.1 ++ "." ++ p.2 ++ ": "
  "failed to decode Protobuf message: " ++ String.join places ++ e.fault.message

/-- The error as seen from outside of a field. -/
def inside (record field : String) (e : DecodeError) : DecodeError :=
  { e with path := e.path ++ [(record, field)] }

end DecodeError

/-- A reader of `α` from the front of some bytes. -/
abbrev Reader (α : Type) := Bytes → Except DecodeError (α × Bytes)

def fail {α : Type} (f : Fault) : Except DecodeError α := .error ⟨[], f⟩

/-! ### Numbers -/

/-- A number in groups of seven bits, the lowest first. -/
def writeVarint (n : Nat) : Bytes :=
  if n < 128 then [UInt8.ofNat n] else UInt8.ofNat (n % 128 + 128) :: writeVarint (n / 128)
termination_by n
decreasing_by omega

/-- Reads the groups from number `count` on, `acc` holding those before it. -/
def readVarintFrom (count acc : Nat) : Reader Nat
  | [] => fail .varint
  | b :: rest =>
    if 9 ≤ count ∧ 2 ≤ b.toNat then fail .varint
    else
      let acc := acc + b.toNat % 128 * Nat.pow 128 count
      if b.toNat < 128 then .ok (acc, rest) else readVarintFrom (count + 1) acc rest

/-- Reads a number of at most 64 bits. -/
def readVarint : Reader Nat := readVarintFrom 0 0

theorem readVarintFrom_writeVarint (n count acc : Nat) (rest : Bytes)
    (h : n < Nat.pow 2 (64 - 7 * count)) (hc : count ≤ 9) :
    readVarintFrom count acc (writeVarint n ++ rest) = .ok (acc + n * Nat.pow 128 count, rest) := by
  induction n using Nat.strongRecOn generalizing count acc with
  | _ n ih =>
    have nine : count = 9 → n < 2 := fun h9 => by subst h9; simpa using h
    rw [writeVarint]
    split
    · rename_i small
      have hb : (UInt8.ofNat n).toNat = n := by simp; omega
      simp only [List.cons_append, List.nil_append, readVarintFrom, hb]
      rw [if_neg (by omega), if_pos small, Nat.mod_eq_of_lt small]
    · rename_i large
      have hb : (UInt8.ofNat (n % 128 + 128)).toNat = n % 128 + 128 := by simp; omega
      have hc9 : count < 9 := by
        rcases Nat.lt_or_ge count 9 with hlt | hge
        · exact hlt
        · have := nine (by omega); omega
      have step : n / 128 < Nat.pow 2 (64 - 7 * (count + 1)) := by
        have e : Nat.pow 2 (64 - 7 * count) = Nat.pow 2 (64 - 7 * (count + 1)) * 128 := by
          rw [show 64 - 7 * count = 64 - 7 * (count + 1) + 7 by omega]
          exact Nat.pow_add 2 _ 7
        rw [e] at h
        exact Nat.div_lt_of_lt_mul (by rw [Nat.mul_comm]; exact h)
      simp only [List.cons_append, readVarintFrom, hb]
      rw [if_neg (by omega), if_neg (by omega), ih (n / 128) (by omega) _ _ step (by omega)]
      have hm : (n % 128 + 128) % 128 = n % 128 := by omega
      have hp : Nat.pow 128 (count + 1) = Nat.pow 128 count * 128 := rfl
      rw [hm, hp]
      congr 2
      have := Nat.div_add_mod n 128
      calc acc + n % 128 * Nat.pow 128 count + n / 128 * (Nat.pow 128 count * 128)
          = acc + (128 * (n / 128) + n % 128) * Nat.pow 128 count := by
            rw [Nat.add_mul, Nat.mul_comm (Nat.pow 128 count) 128, ← Nat.mul_assoc,
              Nat.mul_comm (n / 128) 128]
            omega
        _ = acc + n * Nat.pow 128 count := by rw [this]

/-- Reading gives back what was written, whatever follows. -/
theorem readVarint_writeVarint (n : Nat) (rest : Bytes) (h : n < Nat.pow 2 64) :
    readVarint (writeVarint n ++ rest) = .ok (n, rest) := by
  simpa [readVarint] using readVarintFrom_writeVarint n 0 0 rest (by simpa using h) (by omega)

/-! ### Keys -/

def writeKey (tag : Nat) (w : WireType) : Bytes := writeVarint (tag * 8 + w.number)

/-- Reads the tag and wire type at the start of a field. -/
def readKey : Reader (Nat × WireType) := fun bytes =>
  match readVarint bytes with
  | .error e => .error e
  | .ok (key, rest) =>
    if Nat.pow 2 32 ≤ key then fail (.key key)
    else match WireType.ofNumber? (key % 8) with
      | none => fail (.wireTypeNumber (key % 8))
      | some w => if key / 8 = 0 then fail .zeroTag else .ok ((key / 8, w), rest)

end IdentityClient.Wire
