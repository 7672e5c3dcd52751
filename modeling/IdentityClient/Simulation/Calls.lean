import IdentityClient.Credentials.Service
import IdentityClient.Simulation.Source

/-!
# Calls with credentials in virtual time

One call after the other, each made to a service whose instance has been found ready. Every change of
the service is one of its steps.
-/

namespace IdentityClient.Simulation

open Credentials

/-- The header value for a call to `uri` made at `now`, with the source and the clock afterwards; none if
the source does not answer. A call that is refused does not ask. -/
def metadata (requiresTls : Bool) (source : Option Source) (now : Instant) (uri : Uri) :
    Option (Except CredentialError (Option HeaderValue)) × Option Source × Instant :=
  let credentials : CallCredentials := ⟨requiresTls, source.isSome⟩
  if credentials.refuses uri then (some (.error .insecureTransport), source, now)
  else match source with
    | none => (some (.ok none), none, now)
    | some s =>
      let asked := s.ask now none
      (asked.outcome.map (credentials.metadata uri), some asked.source, asked.at_.getD now)

/-- What the inner service does when a call is to be made to it. -/
inductive Inner (ρ : Type) where
  | notReady (reason : String)
  | answers (r : ρ)
  deriving DecidableEq, Repr

/-- What becomes of a call. -/
inductive CallEnd (ρ : Type) where
  /-- It was not made. -/
  | notReady (reason : String)
  | ended (r : Result ρ)
  /-- It was given up. -/
  | endless
  deriving DecidableEq, Repr

/-- A service, the source its calls ask, and the clock. -/
structure Session (ρ : Type) where
  service : Credentials.State ρ
  source : Option Source
  now : Instant
  /-- What the service and the source have logged. -/
  log : List LogRecord
  nextCall : CallId

namespace Session

variable {ρ : Type}

def start (requiresTls : Bool) (source : Option Source) (now : Instant) : Session ρ :=
  ⟨.initial ⟨requiresTls, source.isSome⟩, source, now, [], 0⟩

/-- Takes over a step of the service. -/
def adopt (s : Session ρ) (service : Credentials.State ρ) : Session ρ :=
  { s with service, log := s.log ++ service.log.drop s.service.log.length }

/-- Takes over a step of the service, if it can be taken. -/
def adopt? (s : Session ρ) (service : Option (Credentials.State ρ)) : Session ρ :=
  match service with
  | some service => s.adopt service
  | none => s

/-- The service is replaced by its clone. -/
def replace (s : Session ρ) : Session ρ := s.adopt (s.service.replace 0)

/-- Asks the token source for call `c` with the time limit that its request states; a call that waits
longer than `patience` is given up. -/
def fetch (s : Session ρ) (c : CallId) (r : Request) (patience : Option Duration) : Session ρ :=
  match s.source with
  | none => s
  | some source =>
    let limit := Grpc.timeout r.headers
    let isLimit : Bool := match limit, patience with
      | some l, some p => (s.now.advance l).tick ≤ (s.now.advance p).tick
      | some _, none => true
      | none, _ => false
    let asked := source.ask s.now (if isLimit then limit else patience)
    let s := { s with
      source := some asked.source
      now := asked.at_.getD s.now
      log := s.log ++ asked.log }
    match asked.outcome with
    | some o => s.adopt? (s.service.fetched c o)
    | none => if isLimit then s.adopt? (s.service.expire c) else s.adopt? (s.service.drop c)

/-- Makes a call to service `v`, which is ready and whose inner service would answer `answer`. -/
def perform (s : Session ρ) (v : ServiceId) (r : Request) (answer : ρ) (patience : Option Duration) :
    Session ρ × CallEnd ρ :=
  let c := s.nextCall
  let s := { s with nextCall := c + 1 }.adopt (s.service.ready v)
  let s := s.adopt? (s.service.call c v r)
  let s := s.adopt? (s.service.begin c)
  let s := match s.service.phase c with
    | .fetching _ r => s.fetch c r patience
    | _ => s
  let s := s.adopt? (s.service.answer c answer)
  match s.service.result? c with
  | some result => (s, .ended result)
  | none => (s, .endless)

/-- Makes a call to the first service if its inner service is ready for it. -/
def attempt (s : Session ρ) (r : Request) (inner : Inner ρ) (patience : Option Duration) :
    Session ρ × CallEnd ρ :=
  match inner with
  | .notReady reason => (s, .notReady reason)
  | .answers answer => s.perform 0 r answer patience

end Session

end IdentityClient.Simulation
