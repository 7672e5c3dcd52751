import IdentityClient.Headers
import IdentityClient.Net.Uri

/-!
# Requests
-/

namespace IdentityClient

structure Request where
  method : String
  uri : Uri
  headers : Headers
  body : Bytes
  deriving DecidableEq, Repr

namespace Request

def authorization : String := "authorization"

/-- The request with `v` as its only authorization. -/
def authorize (r : Request) (v : HeaderValue) : Request :=
  { r with headers := r.headers.insert authorization v }

@[simp] theorem getAll_authorize (r : Request) (v : HeaderValue) :
    (r.authorize v).headers.getAll authorization = [v] := by
  simp [authorize]

end Request

end IdentityClient
