import IdentityClient.Credentials.Policy
import IdentityClient.Grpc.Timeout
import IdentityClient.Log

/-!
# A service that gives its calls credentials

The service stands before an inner service, which must have been found ready before each call. A call
takes the instance that was found ready with it and leaves a fresh clone behind, which nobody has asked
yet. It then asks for the token and passes the request on, or ends with a status.

Services, their clones and their calls go on side by side: each `State` function is one atomic step of
one of them. `ρ` is what the inner service answers. What happened is kept in a list, the latest event
first.
-/

namespace IdentityClient.Credentials

abbrev ServiceId := Nat
abbrev InstanceId := Nat
abbrev CallId := Nat

/-- How a call ends. -/
inductive Result (ρ : Type) where
  /-- With what the inner service answered. -/
  | answered (r : ρ)
  | rejected (e : CredentialError)
  deriving DecidableEq, Repr

inductive Phase (ρ : Type) where
  | outside
  /-- Made, but nothing has been done about it yet. -/
  | created (on : InstanceId) (r : Request)
  /-- Waits for the token. -/
  | fetching (on : InstanceId) (r : Request)
  /-- The inner service has the request. -/
  | sent (on : InstanceId)
  | done
  deriving DecidableEq, Repr

inductive Event (ρ : Type) where
  /-- An instance was found ready by a service. -/
  | ready (v : ServiceId) (on : InstanceId)
  | called (c : CallId) (v : ServiceId) (on : InstanceId) (r : Request)
  /-- The token source is asked. -/
  | asked (c : CallId)
  /-- The inner service is called; whether its instance had been found ready and not been used since. -/
  | sent (c : CallId) (on : InstanceId) (r : Request) (wasReady : Bool)
  | ended (c : CallId) (result : Result ρ)
  | dropped (c : CallId)
  deriving DecidableEq, Repr

structure State (ρ : Type) where
  credentials : CallCredentials
  /-- The instance that each service holds. -/
  holds : ServiceId → InstanceId
  services : Nat
  instances : Nat
  /-- The instances found ready and not used since. -/
  isReady : InstanceId → Bool
  phase : CallId → Phase ρ
  log : List LogRecord
  history : List (Event ρ)

namespace State

variable {ρ : Type}

/-- One service with one instance, which nobody has asked yet. -/
def initial (credentials : CallCredentials) : State ρ :=
  ⟨credentials, fun _ => 0, 1, 1, fun _ => false, fun _ => .outside, [], []⟩

def goto (s : State ρ) (c : CallId) (p : Phase ρ) : State ρ :=
  { s with phase := fun d => if d = c then p else s.phase d }

@[simp] theorem goto_phase_self (s : State ρ) (c : CallId) (p : Phase ρ) :
    (s.goto c p).phase c = p := by
  simp [goto]

theorem goto_phase_of_ne (s : State ρ) {c d : CallId} (p : Phase ρ) (h : d ≠ c) :
    (s.goto c p).phase d = s.phase d := by
  simp [goto, h]

def note (s : State ρ) (e : Event ρ) : State ρ := { s with history := e :: s.history }

def write (s : State ρ) (r : LogRecord) : State ρ := { s with log := s.log ++ [r] }

/-- Service `v` holds instance `i`. -/
def hold (s : State ρ) (v : ServiceId) (i : InstanceId) : State ρ :=
  { s with holds := fun w => if w = v then i else s.holds w }

def mark (s : State ρ) (i : InstanceId) (on : Bool) : State ρ :=
  { s with isReady := fun j => if j = i then on else s.isReady j }

/-- Service `v` holds a fresh clone of its instance. -/
def refresh (s : State ρ) (v : ServiceId) : State ρ :=
  { s with instances := s.instances + 1 }.hold v s.instances

/-- The instance of service `v` is found ready. -/
def ready (s : State ρ) (v : ServiceId) : State ρ :=
  (s.mark (s.holds v) true).note (.ready v (s.holds v))

/-- A clone of service `v`, with a clone of its instance. -/
def clone (s : State ρ) (_ : ServiceId) : State ρ :=
  { s with services := s.services + 1 }.refresh s.services

/-- Service `v` is replaced by its clone. -/
def replace (s : State ρ) (v : ServiceId) : State ρ := s.refresh v

/-- Call `c` is made to service `v`. -/
def call (s : State ρ) (c : CallId) (v : ServiceId) (r : Request) : Option (State ρ) :=
  match s.phase c with
  | .outside =>
    let i := s.holds v
    some (((s.refresh v).goto c (.created i r)).note (.called c v i r))
  | _ => none

/-- What is logged when a call is rejected. -/
def rejection (uri : Uri) (e : CredentialError) : LogRecord :=
  .debug ("rejecting call to " ++ uri.path ++ ": " ++ e.message)

/-- Ends a call that gets no credentials. -/
def reject (s : State ρ) (c : CallId) (r : Request) (e : CredentialError) : State ρ :=
  ((s.write (rejection r.uri e)).goto c .done).note (.ended c (.rejected e))

/-- Passes a request on to the inner service. -/
def forward (s : State ρ) (c : CallId) (i : InstanceId) (r : Request) : State ρ :=
  ((s.mark i false).goto c (.sent i)).note (.sent c i r (s.isReady i))

/-- Call `c` gets under way: it is refused, or passed on, or the token source is asked. -/
def begin (s : State ρ) (c : CallId) : Option (State ρ) :=
  match s.phase c with
  | .created i r =>
    if s.credentials.refuses r.uri then some (s.reject c r .insecureTransport)
    else if s.credentials.hasSource then some ((s.goto c (.fetching i r)).note (.asked c))
    else some (s.forward c i r)
  | _ => none

/-- The token source has answered call `c`. -/
def fetched (s : State ρ) (c : CallId) (o : TokenOutcome) : Option (State ρ) :=
  match s.phase c with
  | .fetching i r =>
    match CallCredentials.ofOutcome o with
    | .ok v => some (s.forward c i (r.authorize v))
    | .error e => some (s.reject c r e)
  | _ => none

/-- The time of call `c` is up while it waits for the token. -/
def expire (s : State ρ) (c : CallId) : Option (State ρ) :=
  match s.phase c with
  | .fetching _ r => (Grpc.timeout r.headers).map fun _ => s.reject c r .deadline
  | _ => none

/-- The inner service has answered call `c`. -/
def answer (s : State ρ) (c : CallId) (r : ρ) : Option (State ρ) :=
  match s.phase c with
  | .sent _ => some ((s.goto c .done).note (.ended c (.answered r)))
  | _ => none

/-- Call `c` is given up. -/
def drop (s : State ρ) (c : CallId) : Option (State ρ) :=
  match s.phase c with
  | .created _ _ | .fetching _ _ | .sent _ => some ((s.goto c .done).note (.dropped c))
  | _ => none

inductive Step : State ρ → State ρ → Prop
  | ready {s : State ρ} (v : ServiceId) : v < s.services → Step s (s.ready v)
  | clone {s : State ρ} (v : ServiceId) : v < s.services → Step s (s.clone v)
  | replace {s : State ρ} (v : ServiceId) : v < s.services → Step s (s.replace v)
  | call {s s' : State ρ} (c : CallId) (v : ServiceId) (r : Request) :
      v < s.services → s.call c v r = some s' → Step s s'
  | begin {s s' : State ρ} (c : CallId) : s.begin c = some s' → Step s s'
  | fetched {s s' : State ρ} (c : CallId) (o : TokenOutcome) : s.fetched c o = some s' → Step s s'
  | expire {s s' : State ρ} (c : CallId) : s.expire c = some s' → Step s s'
  | answer {s s' : State ρ} (c : CallId) (r : ρ) : s.answer c r = some s' → Step s s'
  | drop {s s' : State ρ} (c : CallId) : s.drop c = some s' → Step s s'

/-- What can become of a service and its clones. -/
inductive Reachable (credentials : CallCredentials) : State ρ → Prop
  | initial : Reachable credentials (initial credentials)
  | step {s s' : State ρ} : Reachable credentials s → Step s s' → Reachable credentials s'

/-- How call `c` ended. -/
def result? (s : State ρ) (c : CallId) : Option (Result ρ) :=
  s.history.findSome? fun e => match e with
    | .ended d r => if d = c then some r else none
    | _ => none

/-- The requests that the inner service was called with for call `c`, each with whether its instance
had been found ready. -/
def sent (s : State ρ) (c : CallId) : List (Request × Bool) :=
  (s.history.filterMap fun e => match e with
    | .sent d _ r wasReady => if d = c then some (r, wasReady) else none
    | _ => none).reverse

/-- The service, rendered with the text of its inner service. -/
def render (s : State ρ) (inner : String) : String :=
  renderRecord "CredentialsService" [("inner", inner), ("credentials", s.credentials.render)]

end State

/-- What gives services their credentials, rendered. -/
def renderLayer (c : CallCredentials) : String :=
  renderRecord "CredentialsLayer" [("credentials", c.render)]

end IdentityClient.Credentials
