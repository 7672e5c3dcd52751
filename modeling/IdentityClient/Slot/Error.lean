/-!
# Why a service client could not be constructed
-/

namespace IdentityClient

inductive ServiceInitError where
  /-- The slot's lock was left unusable. -/
  | poisoned (service : String)
  | construct (service reason : String)
  deriving DecidableEq, Repr

def ServiceInitError.message : ServiceInitError → String
  | .poisoned service => "service client slot for " ++ service ++ " is poisoned"
  | .construct service reason => "failed to construct " ++ service ++ " client: " ++ reason

end IdentityClient
