import IdentityClient.Text.Utf8

/-!
# Percent encoding

A byte may be written as a percent sign and two hexadecimal digits. Which characters must be written
so depends on the part of the URL.
-/

namespace IdentityClient.Percent

def upperDigit (n : Nat) : Char := (Nat.digitChar n).toUpper

/-- `%7F` -/
def encodeByte (b : UInt8) : List Char := ['%', upperDigit (b.toNat / 16), upperDigit (b.toNat % 16)]

/-- Writes a character as it is, or all of its bytes encoded. -/
def encodeChar (mustEncode : Char → Bool) (c : Char) : List Char :=
  if mustEncode c then (String.utf8EncodeChar c).flatMap encodeByte else [c]

def encode (mustEncode : Char → Bool) (cs : List Char) : List Char := cs.flatMap (encodeChar mustEncode)

/-- Control characters and everything outside ASCII. -/
def isControl (c : Char) : Bool := c.toNat < 0x20 || 0x7f ≤ c.toNat

def inFragment (c : Char) : Bool := isControl c || " \"<>`".toList.contains c

def inPath (c : Char) : Bool := inFragment c || "#?^\x7b\x7d".toList.contains c

def inUserInfo (c : Char) : Bool := inPath c || "/:;=@[\\]^|".toList.contains c

def inQuery (c : Char) : Bool := isControl c || " \"#<>".toList.contains c

/-- In the query of a web URL the apostrophe is encoded, too. -/
def inSpecialQuery (c : Char) : Bool := inQuery c || c == '\''

/-- The bytes of a text in which some may be encoded; a percent sign that starts no byte stands for
itself. -/
def decode : List Char → Bytes
  | '%' :: a :: b :: rest =>
    match Hex.value? a, Hex.value? b with
    | some high, some low => UInt8.ofNat (high * 16 + low) :: decode rest
    | _, _ => 0x25 :: decode (a :: b :: rest)
  | c :: rest => String.utf8EncodeChar c ++ decode rest
  | [] => []
termination_by cs => cs.length

end IdentityClient.Percent
