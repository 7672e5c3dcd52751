import IdentityClient.Token
import IdentityClient.TokenError

/-!
# What a request for a token comes to
-/

namespace IdentityClient

inductive TokenOutcome where
  | token (t : AccessToken)
  | failed (e : TokenError)
  deriving DecidableEq, Repr

end IdentityClient
