import IdentityClient.Net.Url.Fault

/-!
# Why a text names no issuer
-/

namespace IdentityClient

/-- The environment variable that may name the issuer. -/
def issuerVariable : String := "ZITADEL_ISSUER"

inductive IssuerError where
  | missingVariable
  | notUrl (fault : UrlFault)
  | badScheme
  | noHost
  | userInfo
  | query
  | fragment
  | path
  deriving DecidableEq, Repr

namespace IssuerError

def message : IssuerError → String
  | .missingVariable => "missing issuer (" ++ issuerVariable ++ ")"
  | .notUrl _ => "issuer is not a valid URL"
  | .badScheme => "issuer URL scheme must be https: or http:"
  | .noHost => "issuer URL must include a host"
  | .userInfo => "issuer URL must not include user info"
  | .query => "issuer URL must not include query values"
  | .fragment => "issuer URL must not include a fragment"
  | .path => "issuer URL must not include a path"

/-- The text of the error behind this one. -/
def source? : IssuerError → Option String
  | .notUrl fault => some fault.message
  | _ => none

end IssuerError

end IdentityClient
