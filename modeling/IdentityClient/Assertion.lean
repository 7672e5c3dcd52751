import IdentityClient.Crypto.KeyText
import IdentityClient.Json.Writer
import IdentityClient.ServiceKey

/-!
# Signed assertions

The owner of a service key states who they are in an assertion: a header and claims, each in Base64,
and a signature over both. It is valid for an hour.
-/

namespace IdentityClient

structure Claims where
  /-- Who makes the assertion, and about whom: the owner of the key. -/
  subject : String
  audience : String
  /-- In seconds since 1970. -/
  issuedAt : Nat
  expiresAt : Nat
  deriving DecidableEq, Repr

namespace Claims

/-- How long an assertion is valid, in seconds. -/
def lifetime : Nat := 3600

/-- The claims of a key's owner at `now`. -/
def ofKey (k : ServiceKey) (audience : String) (now : Nat) : Claims :=
  ⟨k.subject, audience, now, now + lifetime⟩

def encode (c : Claims) : List Char :=
  Json.object [("iss", Json.quote c.subject), ("sub", Json.quote c.subject), ("aud", Json.quote c.audience),
    ("iat", (toString c.issuedAt).toList), ("exp", (toString c.expiresAt).toList)]

end Claims

namespace Assertion

/-- The header names the signature's algorithm and the key. -/
def header (keyId : String) : List Char :=
  Json.object [("typ", Json.quote "JWT"), ("alg", Json.quote "RS256"), ("kid", Json.quote keyId)]

def part (cs : List Char) : List Char := Base64.encode .url (Utf8.encodeChars cs)

/-- What is signed. -/
def signedText (keyId : String) (claims : Claims) : List Char :=
  part (header keyId) ++ '.' :: part claims.encode

end Assertion

namespace ServiceKey

/-- The encoding of the private key. -/
def signingKey (k : ServiceKey) : Except SigningFault Bytes := rsaKeyBytes k.key

/-- An assertion signed with an encoded key. -/
def sign (k : ServiceKey) (keyBytes : Bytes) (audience : String) (now : Nat) : Except SigningFault String :=
  match Rsa.PrivateKey.parse keyBytes with
  | .error e => .error (.rsaKey e)
  | .ok key =>
    let text := Assertion.signedText k.keyId (.ofKey k audience now)
    match key.sign (Utf8.encodeChars text) with
    | none => .error .signature
    | some signature => .ok (String.ofList (text ++ '.' :: Base64.encode .url signature))

/-- An assertion for `audience`, made at `now`. -/
def assertion (k : ServiceKey) (audience : String) (now : Nat) : Except SigningFault String := do
  let keyBytes ← k.signingKey
  k.sign keyBytes audience now

end ServiceKey

namespace Assertion

/-- The parts of an assertion between its points. -/
def parts? (text : String) : Option (List Char × List Char × List Char) :=
  let cs := text.toList
  let header := cs.takeWhile (· != '.')
  let rest := (cs.dropWhile (· != '.')).drop 1
  let claims := rest.takeWhile (· != '.')
  match rest.dropWhile (· != '.') with
  | _ :: signature => some (header, claims, signature)
  | [] => none

/-- Whether the signature of an assertion is one for the public key in a text. -/
def verify (publicKey : String) (text : String) : Bool :=
  match rsaKeyBytes publicKey, parts? text with
  | .ok keyBytes, some (header, claims, signature) =>
    match Rsa.PublicKey.parse keyBytes, Base64.decode .url signature with
    | .ok key, some bytes => key.verify (Utf8.encodeChars (header ++ '.' :: claims)) bytes
    | _, _ => false
  | _, _ => false

end Assertion

end IdentityClient
