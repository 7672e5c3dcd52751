import IdentityClient.Grpc.Call
import IdentityClient.Grpc.Reply
import IdentityClient.Simulation.Calls

/-!
# Calls through stubs in virtual time

Each call goes over a clone of the transport of its own, which is found ready first. A transport that is
not ready ends the call, then a method whose name forms no path; in neither case a token is asked for.
-/

namespace IdentityClient.Simulation

open Grpc

/-- What the transport answers: a reply, or the text of its error. -/
abbrev Transported := Except String Reply

/-- Makes a call; what it comes to before the reply is read, and the requests that were sent. -/
def Session.invoke (s : Session Transported) (origin : Uri) (call : Call) (inner : Inner Transported) :
    Session Transported × Except Status Reply × List Request :=
  let v := s.service.services
  let s := s.adopt (s.service.clone 0)
  match inner with
  | .notReady reason => (s, .error ⟨.unknown, "Service was not ready: " ++ reason⟩, [])
  | .answers answer =>
    match call.request origin with
    | .error st => (s.adopt (s.service.ready v), .error st, [])
    | .ok request =>
      let c := s.nextCall
      let (s, ending) := s.perform v request answer none
      let result : Except Status Reply := match ending with
        | .ended (.answered (.ok reply)) => .ok reply
        | .ended (.answered (.error text)) => .error ⟨.unknown, text⟩
        | .ended (.rejected e) => .error e.status
        | .notReady text => .error ⟨.unknown, text⟩
        | .endless => .error ⟨.cancelled, ""⟩
      (s, result, (s.service.sent c).map (·.1))

variable {μ : Type}

/-- A call for a single message. -/
def Session.unary (s : Session Transported) (origin : Uri) (call : Call) (decode : Bytes → Except String μ)
    (inner : Inner Transported) : Session Transported × Except Status (μ × Headers) × List Request :=
  let (s, reply, sent) := s.invoke origin call inner
  (s, reply.bind (·.unary decode), sent)

/-- A call for a stream of messages. -/
def Session.serverStreaming (s : Session Transported) (origin : Uri) (call : Call) (decode : Bytes → Except String μ)
    (inner : Inner Transported) : Session Transported × Except Status (Stream μ) × List Request :=
  let (s, reply, sent) := s.invoke origin call inner
  (s, reply.bind (·.stream decode), sent)

end IdentityClient.Simulation
