import IdentityClient.TokenError
import IdentityClient.Issuer.Error
import IdentityClient.Transport.Error
import IdentityClient.Slot.Error

/-!
# Why a client could not be built
-/

namespace IdentityClient

inductive ClientError where
  /-- No token source could be made; no connection was attempted. -/
  | authInit (cause : TokenError)
  /-- The connection could not be made. -/
  | connection (cause : TransportError)
  /-- A service client could not be constructed. -/
  | serviceInit (cause : ServiceInitError)
  /-- The issuer is invalid. -/
  | issuer (cause : IssuerError)
  deriving DecidableEq, Repr

namespace ClientError

def message : ClientError → String
  | .authInit cause => "failed to initialize authentication: " ++ cause.message
  | .connection cause => "failed to connect: " ++ cause.message
  | .serviceInit cause => cause.message
  | .issuer cause => "invalid issuer: " ++ cause.message

/-- The text of the error behind this one; a construction error speaks for itself. -/
def source? : ClientError → Option String
  | .authInit cause => some cause.message
  | .connection cause => some cause.message
  | .serviceInit _ => none
  | .issuer cause => some cause.message

end ClientError

end IdentityClient
