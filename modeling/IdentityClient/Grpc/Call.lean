import IdentityClient.Grpc.Frame
import IdentityClient.Grpc.Timeout
import IdentityClient.Net.Request

/-!
# Calls as requests

A call is posted to the path of its method at the client's origin. Headers that belong to the protocol
are not taken from the caller.
-/

namespace IdentityClient.Grpc

structure Call where
  /-- The full name of the service. -/
  service : String
  method : String
  message : Bytes
  metadata : Headers
  timeout : Option Duration
  deriving DecidableEq, Repr

/-- The headers that callers cannot set. -/
def reservedHeaders : List String :=
  ["te", "content-type", "grpc-message", "grpc-message-type", "grpc-status"]

namespace Call

/-- The name of the called method. -/
def fullMethod (c : Call) : String := c.service ++ "/" ++ c.method

/-- The path of the method; its name may not form one. -/
def path (c : Call) : Except Status PathQuery :=
  match PathQuery.parse ("/" ++ c.fullMethod).toList with
  | .ok p => .ok p
  | .error e => .error ⟨.internal, "invalid method path: " ++ e.message⟩

/-- What the caller sets: the time budget and the metadata. -/
def callerHeaders (c : Call) : Headers :=
  let budget : Headers := match c.timeout with
    | some d => [(timeoutHeader, .ofString (timeoutText d))]
    | none => []
  budget ++ c.metadata

def headers (c : Call) : Headers :=
  let allowed : Headers := c.callerHeaders.filter fun e => !reservedHeaders.contains e.1
  (allowed.insert "te" (.ofString "trailers")).insert "content-type" (.ofString "application/grpc")

end Call

/-- The URI of a path at an origin; a path of the origin comes first, its query is dropped. -/
def atOrigin (origin : Uri) (path : PathQuery) : Uri :=
  let base := origin.target
  if base.query.isNone && (base.path.isEmpty || base.path == "/") then { origin with target := path }
  else { origin with target := { path with path := base.shownPath ++ path.path } }

/-- The request of a call. -/
def Call.request (c : Call) (origin : Uri) : Except Status Request :=
  match c.path with
  | .error e => .error e
  | .ok path => .ok ⟨"POST", atOrigin origin path, c.headers, frame c.message⟩

end IdentityClient.Grpc
