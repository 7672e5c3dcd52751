import IdentityClient.Encoding.Base64
import IdentityClient.Headers

/-!
# Basic credentials

A user and a password in one header value: a colon between them, and Base64 over all. Nothing in the
user's name is escaped, so a name with a colon reads back as another user (`read?`).
-/

namespace IdentityClient

structure BasicCredentials where
  user : String
  password : String
  deriving DecidableEq, Repr

namespace BasicCredentials

def keyword : List Char := "Basic ".toList

/-- What the value encodes. -/
def joined (c : BasicCredentials) : List Char := c.user.toList ++ ':' :: c.password.toList

/-- The characters of the header value. -/
def encode (c : BasicCredentials) : List Char :=
  keyword ++ Base64.encode .standard (Utf8.encodeChars c.joined)

/-- The header value, marked sensitive. -/
def header (c : BasicCredentials) : HeaderValue := ⟨Utf8.encodeChars c.encode, true⟩

/-- The credentials in a header value: what is encoded is split at its first colon. -/
def read? (value : List Char) : Option BasicCredentials :=
  if value.take keyword.length = keyword then
    match Base64.decode .standard (value.drop keyword.length) with
    | none => none
    | some bytes =>
      match Utf8.decodeChars bytes with
      | .error _ => none
      | .ok cs =>
        match cs.dropWhile (· != ':') with
        | _ :: password => some ⟨String.ofList (cs.takeWhile (· != ':')), String.ofList password⟩
        | [] => none
  else none

end BasicCredentials

end IdentityClient
