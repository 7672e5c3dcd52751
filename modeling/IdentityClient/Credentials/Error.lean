import IdentityClient.TokenError
import IdentityClient.Grpc.Status

/-!
# Why a call gets no credentials
-/

namespace IdentityClient

inductive CredentialError where
  /-- The token source failed. -/
  | token (cause : TokenError)
  /-- The call's time was up before there was a token. -/
  | deadline
  /-- The token cannot stand in a header. -/
  | headerValue
  /-- The credentials need TLS, but the call goes to a plaintext origin. -/
  | insecureTransport
  deriving DecidableEq, Repr

namespace CredentialError

def message : CredentialError → String
  | .token cause => "failed to fetch access token: " ++ cause.message
  | .deadline => "deadline exceeded while fetching access token"
  | .headerValue => "access token is not a valid header value"
  | .insecureTransport => "credentials require transport level security"

def source? : CredentialError → Option String
  | .token cause => some cause.message
  | _ => none

/-- The status with which a call ends that gets no credentials. -/
def status (e : CredentialError) : Grpc.Status :=
  match e with
  | .deadline => ⟨.deadlineExceeded, e.message⟩
  | e => ⟨.unauthenticated, e.message⟩

end CredentialError

end IdentityClient
