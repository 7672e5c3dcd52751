import IdentityClient.Json.Record
import IdentityClient.Text.Quoted
import IdentityClient.TokenError

/-!
# Service keys

The private key of a service user or an application, as it is downloaded: a document with the key's
identifier, the key as armoured text, and its owner. Who owns it is the user, if the document names
one, even one without a name, and otherwise the application.
-/

namespace IdentityClient

structure ServiceKey where
  keyId : String
  /-- The private key as armoured text. -/
  key : String
  userId : Option String
  clientId : Option String
  deriving DecidableEq, Repr

namespace ServiceKey

def schema : Json.Schema :=
  ⟨"ServiceKey", [⟨"keyId", .text⟩, ⟨"key", .text⟩, ⟨"userId", .optionalText⟩, ⟨"clientId", .optionalText⟩]⟩

/-- The owner of the key. -/
def subject (k : ServiceKey) : String := (k.userId.or k.clientId).getD ""

def ofRecord (r : Json.Record) : ServiceKey :=
  ⟨r.text "keyId", r.text "key", r.text? "userId", r.text? "clientId"⟩

/-- A key that has an identifier and an owner. -/
def check (k : ServiceKey) : Except KeyFault ServiceKey :=
  if k.keyId = "" then .error .emptyKeyId
  else if k.subject = "" then .error .noOwner
  else .ok k

/-- The key in a document. -/
def ofDocument (text : String) : Except KeyFault ServiceKey :=
  match Json.recordOfText schema text with
  | .error e => .error (.malformed e)
  | .ok r => (ofRecord r).check

/-- What a file holds, or why it cannot be read. -/
abbrev FileReader := String → Except FileFault Bytes

/-- The text in a file. -/
def readText (files : FileReader) (path : String) : Except FileFault String := do
  let bytes ← files path
  (Utf8.decode bytes).mapError fun _ => .notText

/-- The key in a file. -/
def ofFile (files : FileReader) (path : String) : Except TokenError ServiceKey :=
  match readText files path with
  | .error e => .error (.keyFile path e)
  | .ok text => (ofDocument text).mapError .invalidKey

def render (k : ServiceKey) : String :=
  renderRecord "ServiceKey" [("key_id", quoted k.keyId), ("subject", quoted k.subject), ("key", redacted)]

end ServiceKey

end IdentityClient
