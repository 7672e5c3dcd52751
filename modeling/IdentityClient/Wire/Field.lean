import IdentityClient.Wire.Varint

/-!
# Fields and messages on the wire

A message is a sequence of fields. Reading a field either replaces a value of the message, merges
into a nested message, or passes over a field that the message does not know. Groups and nested
messages count against a depth limit.
-/

namespace IdentityClient.Wire

/-- How deeply groups and messages may nest. -/
def depthLimit : Nat := 100

/-! ### Unknown fields -/

/-- Passes `count` bytes. -/
def skipBytes (count : Nat) (bytes : Bytes) : Except DecodeError Bytes :=
  if bytes.length < count then fail .underflow else .ok (bytes.drop count)

mutual

/-- Passes the value of an unknown field; `fuel` bounds the fields in it. -/
def skipValue : (fuel depth tag : Nat) → WireType → Bytes → Except DecodeError Bytes
  | 0, _, _, _, _ => fail .recursion
  | fuel + 1, depth, tag, w, bytes =>
    if depth = 0 then fail .recursion
    else match w with
      | .varint => (readVarint bytes).map (·.2)
      | .thirtyTwoBit => skipBytes 4 bytes
      | .sixtyFourBit => skipBytes 8 bytes
      | .lengthDelimited =>
        match readVarint bytes with
        | .error e => .error e
        | .ok (n, rest) => skipBytes n rest
      | .startGroup => skipGroup fuel depth tag bytes
      | .endGroup => fail .endGroup

/-- Passes the fields of a group up to its end, which must carry the same tag. -/
def skipGroup : (fuel depth tag : Nat) → Bytes → Except DecodeError Bytes
  | 0, _, _, _ => fail .recursion
  | fuel + 1, depth, tag, bytes =>
    match readKey bytes with
    | .error e => .error e
    | .ok ((inner, w), rest) =>
      if w = .endGroup then (if inner = tag then .ok rest else fail .endGroup)
      else
        match skipValue fuel (depth - 1) inner w rest with
        | .error e => .error e
        | .ok rest => skipGroup fuel depth tag rest

end

def skipField (depth tag : Nat) (w : WireType) (bytes : Bytes) : Except DecodeError Bytes :=
  skipValue (2 * bytes.length + 2) depth tag w bytes

/-! ### Scalars -/

def expectType (found expected : WireType) : Except DecodeError Unit :=
  if found = expected then .ok () else fail (.wireType found expected)

/-- A 64-bit number. -/
def readWord (w : WireType) : Reader UInt64 := fun bytes => do
  expectType w .varint
  let (n, rest) ← readVarint bytes
  pure (UInt64.ofNat n, rest)

/-- A 32-bit number; higher bits are dropped. -/
def readWord32 (w : WireType) : Reader UInt32 := fun bytes => do
  let (n, rest) ← readWord w bytes
  pure (n.toUInt32, rest)

/-- A signed 64-bit number, written as the word with the same bits. -/
def readInt (w : WireType) : Reader Int64 := fun bytes => do
  let (n, rest) ← readWord w bytes
  pure (n.toInt64, rest)

/-- A signed 32-bit number; higher bits are dropped. -/
def readInt32 (w : WireType) : Reader Int32 := fun bytes => do
  let (n, rest) ← readWord32 w bytes
  pure (n.toInt32, rest)

/-- Any number but zero counts as true. -/
def readBool (w : WireType) : Reader Bool := fun bytes => do
  let (n, rest) ← readWord w bytes
  pure (n != 0, rest)

def readText (w : WireType) : Reader String := fun bytes => do
  expectType w .lengthDelimited
  let (n, rest) ← readVarint bytes
  if rest.length < n then fail .underflow
  else match Utf8.decode (rest.take n) with
    | .error _ => fail .notUtf8
    | .ok s => pure (s, rest.drop n)

/-- A number that is left out when it is zero. -/
def writeWord (tag : Nat) (n : UInt64) : Bytes :=
  if n = 0 then [] else writeKey tag .varint ++ writeVarint n.toNat

def writeBool (tag : Nat) (b : Bool) : Bytes := if b then writeKey tag .varint ++ [1] else []

def writeText (tag : Nat) (s : String) : Bytes :=
  if s.isEmpty then []
  else writeKey tag .lengthDelimited ++ writeVarint s.utf8ByteSize ++ Utf8.encode s

/-- A signed number as the word that reads back as it: negative ones take all 64 bits. -/
def wordOfInt32 (n : Int32) : UInt64 := n.toInt64.toUInt64

/-! ### Messages -/

/-- A record that can be written as fields and read from them. -/
class Message (α : Type) where
  /-- The record before any field is read. -/
  empty : α
  encode : α → Bytes
  /-- Reads the value of one field into the record. -/
  mergeField : (depth tag : Nat) → WireType → α → Reader α

namespace Message

variable {α : Type} [Message α]

/-- Reads fields while more than `limit` bytes are left; `fuel` bounds their number. -/
def mergeUntil (depth limit : Nat) : (fuel : Nat) → α → Reader α
  | 0, m, bytes => .ok (m, bytes)
  | fuel + 1, m, bytes =>
    if bytes.length ≤ limit then .ok (m, bytes)
    else
      match readKey bytes with
      | .error e => .error e
      | .ok ((tag, w), rest) =>
        match mergeField depth tag w m rest with
        | .error e => .error e
        | .ok (m, rest) => mergeUntil depth limit fuel m rest

/-- Reads fields into a record until the bytes end. -/
def merge (m : α) (bytes : Bytes) : Except DecodeError α :=
  (mergeUntil depthLimit 0 bytes.length m bytes).map (·.1)

def decode (bytes : Bytes) : Except DecodeError α := merge empty bytes

/-- Reads a length and that many bytes of fields. A field may not reach past the length, but only
once it has been read does that show. -/
def mergeDelimited (depth : Nat) (w : WireType) (m : α) : Reader α := fun bytes => do
  expectType w .lengthDelimited
  if depth = 0 then fail .recursion
  let (n, rest) ← readVarint bytes
  if rest.length < n then fail .underflow
  let limit := rest.length - n
  let (m, rest) ← mergeUntil (depth - 1) limit rest.length m rest
  if rest.length = limit then pure (m, rest) else fail .overrun

/-- Reads a record after its length. -/
def decodeDelimited (bytes : Bytes) : Except DecodeError α :=
  (mergeDelimited depthLimit .lengthDelimited empty bytes).map (·.1)

/-- A record after its length. -/
def encodeDelimited (m : α) : Bytes :=
  let bytes := encode m
  writeVarint bytes.length ++ bytes

/-- A nested record; an absent one is left out, an empty one is not. -/
def writeOptional (tag : Nat) : Option α → Bytes
  | none => []
  | some m => writeKey tag .lengthDelimited ++ encodeDelimited m

/-- Reads into a nested record, which starts out empty if it is absent. -/
def mergeOptional (depth : Nat) (w : WireType) (m : Option α) : Reader (Option α) := fun bytes => do
  let (m, rest) ← mergeDelimited depth w (m.getD empty) bytes
  pure (some m, rest)

end Message

/-- Reads a known field, naming it in every error. -/
def known {α β : Type} (record field : String) (read : Reader β) (set : β → α) : Reader α :=
  fun bytes =>
    match read bytes with
    | .error e => .error (e.inside record field)
    | .ok (v, rest) => .ok (set v, rest)

/-- Passes an unknown field. -/
def unknown {α : Type} (depth tag : Nat) (w : WireType) (m : α) : Reader α := fun bytes =>
  (skipField depth tag w bytes).map fun rest => (m, rest)

end IdentityClient.Wire
