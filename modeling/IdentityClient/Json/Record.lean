import IdentityClient.Json.Reader

/-!
# Records from JSON documents

A schema names the fields of a record. A document gives the record as an object, where unknown
members are passed over and a known one may stand only once, or as a list of the fields in order.
Optional fields may be absent or null.
-/

namespace IdentityClient.Json

inductive FieldKind where
  /-- A text that must be present. -/
  | text
  /-- A text that may be absent or null. -/
  | optionalText
  /-- A whole number of 64 bits that may be absent or null. -/
  | optionalWord
  deriving DecidableEq, Repr

inductive FieldValue where
  | absent
  | text (s : String)
  | word (n : Nat)
  deriving DecidableEq, Repr

structure Field where
  name : String
  kind : FieldKind
  deriving DecidableEq, Repr

structure Schema where
  name : String
  fields : List Field
  deriving DecidableEq, Repr

/-- The fields that were read, the latest first. -/
abbrev Record := List (String × FieldValue)

namespace Record

/-- The text of a field, if it has one. -/
def text? (r : Record) (name : String) : Option String :=
  match r.lookup name with
  | some (.text s) => some s
  | _ => none

/-- The number in a field, if it has one. -/
def word? (r : Record) (name : String) : Option Nat :=
  match r.lookup name with
  | some (.word n) => some n
  | _ => none

/-- The text of a field that is present. -/
def text (r : Record) (name : String) : String := (r.text? name).getD ""

end Record

namespace Schema

/-- What a document of another kind should have been. -/
def expected (s : Schema) : String := "struct " ++ s.name

/-- What a list that is too short should have been. -/
def expectedList (s : Schema) : String :=
  let count := s.fields.length
  "struct " ++ s.name ++ " with " ++ toString count ++ (if count = 1 then " element" else " elements")

end Schema

/-- Reads a text value. -/
def readTextValue (u : Units) : Reader FieldValue := fun cs =>
  match skipBlank cs with
  | [] => .error .endInValue
  | c :: rest =>
    if c = '"' then
      match readText u rest with
      | .error e => .error e
      | .ok (s, rest) => .ok (.text s, rest)
    else .error (wrongKind u "a string" (c :: rest))

def wordOfNumber : Number → Except Fault FieldValue
  | .integer n =>
    if 0 ≤ n then .ok (.word n.toNat) else .error (.wrongValue (.integer n) "u64")
  | .float x => .error (.wrongKind (.float x) "u64")

/-- Reads a whole number of 64 bits. -/
def readWordValue (u : Units) : Reader FieldValue := fun cs =>
  let finish (r : Except Fault (Number × List Char)) : Except Fault (FieldValue × List Char) :=
    match r with
    | .error e => .error e
    | .ok (n, rest) =>
      match wordOfNumber n with
      | .error e => .error e
      | .ok v => .ok (v, rest)
  match skipBlank cs with
  | [] => .error .endInValue
  | c :: rest =>
    if c = '-' then finish (readNumber true rest)
    else if c.isDigit then finish (readNumber false (c :: rest))
    else .error (wrongKind u "u64" (c :: rest))

/-- Reads null, or a value with `read`. -/
def readOptional (read : Reader FieldValue) : Reader FieldValue := fun cs =>
  match skipBlank cs with
  | 'n' :: rest =>
    match readWord ['u', 'l', 'l'] rest with
    | .error e => .error e
    | .ok (_, rest) => .ok (.absent, rest)
  | cs => read cs

def readField (u : Units) : FieldKind → Reader FieldValue
  | .text => readTextValue u
  | .optionalText => readOptional (readTextValue u)
  | .optionalWord => readOptional (readWordValue u)

/-- Passes the colon between a key and its value. -/
def readColon (cs : List Char) : Except Fault (List Char) :=
  match skipBlank cs with
  | ':' :: rest => .ok rest
  | [] => .error .endInObject
  | _ => .error .missingColon

/-- Reads one member of an object after the quote that opens its key. -/
def readMember (u : Units) (s : Schema) (seen : Record) : Reader Record := fun cs =>
  match readText u cs with
  | .error e => .error e
  | .ok (key, rest) =>
    match s.fields.find? (·.name == key) with
    | some field =>
      if (seen.lookup key).isSome then .error (.duplicateField key)
      else
        match readColon rest with
        | .error e => .error e
        | .ok rest =>
          match readField u field.kind rest with
          | .error e => .error e
          | .ok (v, rest) => .ok ((key, v) :: seen, rest)
    | none =>
      match readColon rest with
      | .error e => .error e
      | .ok rest =>
        match skipValue rest with
        | .error e => .error e
        | .ok rest => .ok (seen, rest)

/-- Reads the members of an object up to and with its closing brace; `fuel` bounds their number. -/
def readMembers (u : Units) (s : Schema) : (fuel : Nat) → (first : Bool) → Record → Reader Record
  | 0, _, _, _ => .error .endInObject
  | fuel + 1, first, seen, cs =>
    let member (rest : List Char) : Except Fault (Record × List Char) :=
      match readMember u s seen rest with
      | .error e => .error e
      | .ok (seen, rest) => readMembers u s fuel false seen rest
    match skipBlank cs with
    | [] => .error .endInObject
    | c :: rest =>
      if c = '\x7d' then .ok (seen, rest)
      else if first then (if c = '"' then member rest else .error .keyNotText)
      else if c = ',' then
        match skipBlank rest with
        | [] => .error .endInValue
        | d :: rest =>
          if d = '"' then member rest
          else if d = '\x7d' then .error .trailingComma
          else .error .keyNotText
      else .error .missingObjectComma

/-- Whether another element of a list follows, and the rest from that element on. -/
def nextElement (first : Bool) (cs : List Char) : Except Fault (Bool × List Char) :=
  match skipBlank cs with
  | [] => .error .endInList
  | c :: rest =>
    if c = ']' then .ok (false, c :: rest)
    else if first then .ok (true, c :: rest)
    else if c = ',' then
      match skipBlank rest with
      | [] => .error .endInValue
      | d :: rest => if d = ']' then .error .trailingComma else .ok (true, d :: rest)
    else .error .missingListComma

/-- Reads the fields in order from the elements of a list. -/
def readElements (u : Units) (s : Schema) : List Field → (index : Nat) → Record → Reader Record
  | [], _, seen, cs => .ok (seen, cs)
  | field :: fields, index, seen, cs =>
    match nextElement (index == 0) cs with
    | .error e => .error e
    | .ok (true, rest) =>
      match readField u field.kind rest with
      | .error e => .error e
      | .ok (v, rest) => readElements u s fields (index + 1) ((field.name, v) :: seen) rest
    | .ok (false, rest) =>
      if field.kind = .text then .error (.wrongLength index s.expectedList)
      else readElements u s fields (index + 1) ((field.name, .absent) :: seen) rest

/-- Passes the end of a list that holds nothing more. -/
def endList (cs : List Char) : Except Fault (List Char) :=
  match skipBlank cs with
  | [] => .error .endInList
  | c :: rest =>
    if c = ']' then .ok rest
    else if c = ',' then
      match skipBlank rest with
      | ']' :: _ => .error .trailingComma
      | _ => .error .trailingText
    else .error .trailingText

/-- The first field that must be present and was not read. -/
def missing? (s : Schema) (seen : Record) : Option String :=
  (s.fields.find? fun f => f.kind == .text && (seen.lookup f.name).isNone).map (·.name)

/-- Reads a record from the front of the input. -/
def readRecord (u : Units) (s : Schema) : Reader Record := fun cs =>
  match skipBlank cs with
  | [] => .error .endInValue
  | c :: rest =>
    if c = '[' then
      match readElements u s s.fields 0 [] rest with
      | .error e => .error e
      | .ok (seen, rest) =>
        match endList rest with
        | .error e => .error e
        | .ok rest => .ok (seen, rest)
    else if c = '\x7b' then
      match readMembers u s (rest.length + 1) true [] rest with
      | .error e => .error e
      | .ok (seen, rest) =>
        match missing? s seen with
        | some name => .error (.missingField name)
        | none => .ok (seen, rest)
    else .error (wrongKind u s.expected (c :: rest))

/-- The record that a whole document holds. -/
def record (u : Units) (s : Schema) (cs : List Char) : Except Fault Record :=
  match readRecord u s cs with
  | .error e => .error e
  | .ok (r, rest) => if (skipBlank rest).isEmpty then .ok r else .error .trailingText

/-- The record in a text. -/
def recordOfText (s : Schema) (text : String) : Except Fault Record := record .text s text.toList

/-- The record in a sequence of bytes. -/
def recordOfBytes (s : Schema) (bytes : Bytes) : Except Fault Record :=
  record .bytes s (bytes.map Units.ofByte)

end IdentityClient.Json
