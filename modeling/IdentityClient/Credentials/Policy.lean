import IdentityClient.Credentials.Error
import IdentityClient.Net.Request
import IdentityClient.Token.Outcome

/-!
# What calls are given to prove who makes them

Every call carries the token of the source, if there is one, as a bearer token. Credentials that need
TLS are refused to a plaintext target, whether there is a source or not.
-/

namespace IdentityClient

/-- How the calls of a connection are given credentials. -/
structure CallCredentials where
  /-- Whether they must only be sent over TLS. -/
  requiresTls : Bool
  hasSource : Bool
  deriving DecidableEq, Repr

namespace CallCredentials

/-- Credentials that attach nothing. -/
def anonymous (requiresTls : Bool) : CallCredentials := ⟨requiresTls, false⟩

/-- Whether a call to `uri` is refused at once. -/
def refuses (c : CallCredentials) (uri : Uri) : Bool := c.requiresTls && uri.scheme == some .http

/-- `Bearer` and the secret, which is marked sensitive; not every secret can stand in a header. -/
def bearer (t : AccessToken) : Except CredentialError HeaderValue :=
  match HeaderValue.ofString? ("Bearer " ++ t.secret) with
  | some v => .ok { v with sensitive := true }
  | none => .error .headerValue

/-- The header value for a token that was asked for. -/
def ofOutcome : TokenOutcome → Except CredentialError HeaderValue
  | .token t => bearer t
  | .failed e => .error (.token e)

/-- The header value for a call to `uri`, where asking the source would come to `asked`. -/
def metadata (c : CallCredentials) (uri : Uri) (asked : TokenOutcome) :
    Except CredentialError (Option HeaderValue) :=
  if c.refuses uri then .error .insecureTransport
  else if c.hasSource then (ofOutcome asked).map some
  else .ok none

def render (c : CallCredentials) : String :=
  renderRecord "PerRpcCredentials" [("tls", boolText c.requiresTls), ("token_source", boolText c.hasSource)]

end CallCredentials

end IdentityClient
