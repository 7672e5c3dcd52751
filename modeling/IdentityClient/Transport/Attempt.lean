import IdentityClient.Time
import IdentityClient.Transport.Target

/-!
# A connection attempt and its time limit

An attempt looks the host up, tries its addresses one after the other, and with TLS makes the handshake.
The limit bounds the part up to the open socket, and after that the handshake, each on its own: with TLS
an attempt may take up to twice the limit. What the network does, and how long it takes, is a parameter.
-/

namespace IdentityClient

/-- What something comes to after a while; what takes for ever has no length. -/
structure Timed (α : Type) where
  value : α
  length : Option Duration
  deriving DecidableEq, Repr

/-- What one socket comes to: it is open, or the reason why not. -/
abbrev SocketEnd := Option String

/-- What an attempt meets in the network. -/
structure Route where
  /-- The addresses of the host with what becomes of a socket to each, or why there are none. -/
  lookup : Timed (Except String (List (String × Timed SocketEnd)))
  /-- None if the handshake succeeds, otherwise the reason why not. -/
  handshake : Timed (Option String)

/-- A part of an attempt: what it comes to, and what it logs on the way, each record with the time since
the start. -/
structure Part where
  notes : List (Duration × LogRecord)
  outcome : Timed (Option ConnectFault)

namespace Part

/-- What is logged about an address. -/
def reached (address : String) : LogRecord := .debug ("connected to " ++ address)

def missed (address reason : String) : LogRecord :=
  .debug ("connection to " ++ address ++ " failed: " ++ reason)

/-- Tries addresses in order from `elapsed` on; `fault` is why the last one failed. -/
def tryAddresses (elapsed : Duration) (fault : ConnectFault) : List (String × Timed SocketEnd) → Part
  | [] => ⟨[], some fault, some elapsed⟩
  | (address, socket) :: rest =>
    match socket.length with
    | none => ⟨[], none, none⟩
    | some d =>
      let elapsed : Duration := ⟨elapsed.nanos + d.nanos⟩
      match socket.value with
      | none => ⟨[(elapsed, reached address)], none, some elapsed⟩
      | some reason =>
        let more := tryAddresses elapsed (.refused reason) rest
        { more with notes := (elapsed, missed address reason) :: more.notes }

/-- The part up to the open socket. -/
def openSocket (host : String) (route : Route) : Part :=
  match route.lookup.length with
  | none => ⟨[], none, none⟩
  | some d =>
    match route.lookup.value with
    | .error reason => ⟨[], some (.lookup reason), some d⟩
    | .ok addresses => tryAddresses d (.noAddress host) addresses

/-- The handshake, which logs nothing. -/
def handshake (route : Route) : Part := ⟨[], route.handshake.value.map .handshake, route.handshake.length⟩

end Part

/-- How an attempt, or a part of it, ends. -/
inductive AttemptEnd where
  | opened (at_ : Instant)
  | failed (fault : ConnectFault) (at_ : Instant)
  | endless
  deriving DecidableEq, Repr

namespace AttemptEnd

/-- When the attempt ended. -/
def at? : AttemptEnd → Option Instant
  | .opened t => some t
  | .failed _ t => some t
  | .endless => none

def result : AttemptEnd → ConnectResult
  | .opened _ => .opened
  | .failed fault _ => .failed fault
  | .endless => .endless

end AttemptEnd

namespace Part

/-- Runs a part from `start` under a limit, with what it logs until its end. -/
def run (p : Part) (host : String) (limit : Option Duration) (start : Instant) :
    List LogRecord × AttemptEnd :=
  match start.await p.outcome.length limit with
  | .finished t =>
    (p.notes.map (·.2), match p.outcome.value with
      | none => .opened t
      | some fault => .failed fault t)
  | .timedOut t =>
    let before := p.notes.filter fun n => (start.advance n.1).nanos ≤ t.nanos
    (before.map (·.2), .failed (.timedOut host) t)
  | .endless => (p.notes.map (·.2), .endless)

end Part

namespace ConnectTarget

/-- One connection attempt, begun at `start`. -/
def attempt (t : ConnectTarget) (route : Route) (start : Instant) : List LogRecord × AttemptEnd :=
  let limit := t.settings.connectTimeout
  let (log, socket) := (Part.openSocket t.host route).run t.host limit start
  match socket, t.tls with
  | .opened now, some _ => (log, ((Part.handshake route).run t.host limit now).2)
  | ended, _ => (log, ended)

/-- What an attempt comes to. -/
def connectEnd (t : ConnectTarget) (route : Route) (start : Instant) : ConnectEnd :=
  let (log, ended) := t.attempt route start
  ⟨log, ended.result⟩

end ConnectTarget

end IdentityClient
