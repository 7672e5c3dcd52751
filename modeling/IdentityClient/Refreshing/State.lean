import IdentityClient.Log
import IdentityClient.Token.Outcome

/-!
# A token that is refreshed ahead of its expiry

Any number of calls may ask the source for its token. A token in the cache that outlives the margin is
given out at once; otherwise the calls queue for a lock, first come first served, and the one that has
it runs an exchange with the identity provider. Those behind it take the token that the exchange left
or, if none of use was left and an exchange has ended since they looked, its error.

A call is a sequence of atomic steps: `State.next` is the step that a call takes in its phase, if it can
take one. Cache, last failure and counter are written one after the other and read without the lock. The
outcome of an exchange comes from outside (`State.finish`), time passes (`State.elapse`), and a call that
has not begun or waits may be given up (`State.drop`). What happened is kept in a list, the latest event
first.
-/

namespace IdentityClient.Refreshing

/-- A call for the token; each has a number of its own. -/
abbrev CallId := Nat

/-- How an exchange, or a call for the token, ends. -/
abbrev Outcome := TokenOutcome

/-- Where a call stands. -/
inductive Phase where
  /-- Not made yet. -/
  | outside
  /-- Before its first look at the cache. -/
  | entered
  /-- Has found no fresh token, and reads the counter next. -/
  | missed
  /-- Has read the counter, and wants the lock. -/
  | asking (seen : Nat)
  /-- Stands in the queue for the lock, or has been handed it and has not noticed yet. -/
  | queued (seen : Nat)
  /-- Has the lock, and looks at the cache again. -/
  | rechecking (seen : Nat)
  /-- Has the lock and found no fresh token; compares the counter. -/
  | comparing (seen : Nat)
  /-- Has the lock; an exchange has ended since the call read the counter. -/
  | consulting
  /-- Has the lock, and starts an exchange next. -/
  | starting
  /-- Has the lock and waits for its exchange. -/
  | exchanging
  /-- Its exchange has ended; the token goes into the cache or the failure into the log. -/
  | ended (o : Outcome)
  /-- The cache is written, the last failure is not. -/
  | stored (t : AccessToken)
  /-- The last failure is cleared, the log is not written. -/
  | cleared (t : AccessToken)
  /-- The log has the failure, the last failure is not written. -/
  | warned (e : TokenError)
  /-- All is written but the counter. -/
  | written (o : Outcome)
  /-- Has the lock and gives it back next. -/
  | unlocking (o : Outcome)
  | leaving (o : Outcome)
  /-- Has returned or has been given up. -/
  | done
  deriving DecidableEq, Repr

inductive Event where
  | called (c : CallId)
  /-- A token of the cache is still fresh. -/
  | hit (c : CallId) (t : AccessToken)
  /-- A call reads the counter. -/
  | counted (c : CallId) (seen : Nat)
  | queued (c : CallId)
  | started (c : CallId)
  | ended (c : CallId) (o : Outcome)
  /-- An exchange is counted. -/
  | recorded (c : CallId) (o : Outcome)
  /-- A call takes over the failure of an exchange that it has waited for. -/
  | relayed (c : CallId) (reason : String)
  | returned (c : CallId) (o : Outcome)
  | dropped (c : CallId)
  deriving DecidableEq, Repr

structure State where
  now : Instant
  margin : Duration
  cached : Option AccessToken
  /-- The text of the last exchange's error, if it failed. -/
  lastFailure : Option String
  /-- How many exchanges have run to their end; a source does not live to see 2^64 of them. -/
  attempts : Nat
  /-- The call that has the lock or has been handed it. -/
  owner : Option CallId
  /-- Who waits for the lock, in the order of arrival. -/
  queue : List CallId
  phase : CallId → Phase
  log : List LogRecord
  history : List Event

namespace State

/-- A source that holds no token. -/
def initial (now : Instant) (margin : Duration) : State :=
  ⟨now, margin, none, none, 0, none, [], fun _ => .outside, [], []⟩

/-- The token in the cache, if it outlives the margin. -/
def fresh (s : State) : Option AccessToken :=
  s.cached.filter fun t => !t.expiresWithin s.now s.margin

def goto (s : State) (c : CallId) (p : Phase) : State :=
  { s with phase := fun d => if d = c then p else s.phase d }

@[simp] theorem goto_phase_self (s : State) (c : CallId) (p : Phase) : (s.goto c p).phase c = p := by
  simp [goto]

theorem goto_phase_of_ne (s : State) {c d : CallId} (p : Phase) (h : d ≠ c) :
    (s.goto c p).phase d = s.phase d := by
  simp [goto, h]

def note (s : State) (e : Event) : State := { s with history := e :: s.history }

def write (s : State) (r : LogRecord) : State := { s with log := s.log ++ [r] }

/-- Gives the lock back: the first in the queue is handed it. -/
def release (s : State) : State :=
  match s.queue with
  | [] => { s with owner := none }
  | c :: rest => { s with owner := some c, queue := rest }

/-- Takes the lock if it is free, otherwise queues for it. -/
def acquire (s : State) (c : CallId) (seen : Nat) : State :=
  match s.owner with
  | none => { s with owner := some c }.goto c (.rechecking seen)
  | some _ => ({ s with queue := s.queue ++ [c] }.goto c (.queued seen)).note (.queued c)

/-- What is logged when an exchange has given a token. -/
def obtained : LogRecord := .debug "obtained access token"

/-- What is logged when an exchange has failed. -/
def failure (e : TokenError) : LogRecord := .warn ("access token exchange failed: " ++ e.message)

/-- Call `c` is made. -/
def call (s : State) (c : CallId) : Option State :=
  match s.phase c with
  | .outside => some ((s.goto c .entered).note (.called c))
  | _ => none

/-- A look at the cache: a fresh token ends the call with `hit`, otherwise it goes on with `miss`. Cache and
clock are read as one: a token is replaced only when it is stale, so a look that takes longer finds what a
look at some moment in between would have found. -/
def look (s : State) (c : CallId) (hit : AccessToken → Phase) (miss : Phase) : State :=
  match s.fresh with
  | some t => (s.goto c (hit t)).note (.hit c t)
  | none => s.goto c miss

/-- The next step of call `c`; none if it is over, waits, or has not been made. -/
def next (s : State) (c : CallId) : Option State :=
  match s.phase c with
  | .outside | .exchanging | .done => none
  | .entered => some (s.look c (fun t => .leaving (.token t)) .missed)
  | .missed => some ((s.goto c (.asking s.attempts)).note (.counted c s.attempts))
  | .asking seen => some (s.acquire c seen)
  | .queued seen => if s.owner = some c then some (s.goto c (.rechecking seen)) else none
  | .rechecking seen => some (s.look c (fun t => .unlocking (.token t)) (.comparing seen))
  | .comparing seen => some (s.goto c (if s.attempts = seen then .starting else .consulting))
  | .consulting =>
    match s.lastFailure with
    | some reason =>
      some ((s.goto c (.unlocking (.failed (.refreshFailed reason)))).note (.relayed c reason))
    | none => some (s.goto c .starting)
  | .starting => some ((s.goto c .exchanging).note (.started c))
  | .ended (.token t) => some ({ s with cached := some t }.goto c (.stored t))
  | .ended (.failed e) => some ((s.write (failure e)).goto c (.warned e))
  | .stored t => some ({ s with lastFailure := none }.goto c (.cleared t))
  | .cleared t => some ((s.write obtained).goto c (.written (.token t)))
  | .warned e => some ({ s with lastFailure := some e.message }.goto c (.written (.failed e)))
  | .written o =>
    some (({ s with attempts := s.attempts + 1 }.goto c (.unlocking o)).note (.recorded c o))
  | .unlocking o => some (s.release.goto c (.leaving o))
  | .leaving o => some ((s.goto c .done).note (.returned c o))

/-- The exchange of call `c` ends with `o`. -/
def finish (s : State) (c : CallId) (o : Outcome) : Option State :=
  match s.phase c with
  | .exchanging => some ((s.goto c (.ended o)).note (.ended c o))
  | _ => none

/-- Takes call `c` off the lock: from the queue, or the lock goes on to the next. -/
def leave (s : State) (c : CallId) : State :=
  if s.owner = some c then s.release else { s with queue := s.queue.erase c }

/-- Call `c` is given up before it begins, or while it waits: for the lock, or for its exchange. -/
def drop (s : State) (c : CallId) : Option State :=
  match s.phase c with
  | .entered | .asking _ | .queued _ | .exchanging => some (((s.leave c).goto c .done).note (.dropped c))
  | _ => none

def elapse (s : State) (d : Duration) : State := { s with now := s.now.advance d }

inductive Step : State → State → Prop
  | call {s s' : State} (c : CallId) : s.call c = some s' → Step s s'
  | next {s s' : State} (c : CallId) : s.next c = some s' → Step s s'
  | finish {s s' : State} (c : CallId) (o : Outcome) : s.finish c o = some s' → Step s s'
  | drop {s s' : State} (c : CallId) : s.drop c = some s' → Step s s'
  | elapse {s : State} (d : Duration) : Step s (s.elapse d)

/-- What an exchange leaves behind, from its end to its being counted. -/
def record (s : State) : Outcome → State
  | .token t =>
    { s with cached := some t, lastFailure := none, log := s.log ++ [obtained], attempts := s.attempts + 1 }
  | .failed e =>
    { s with lastFailure := some e.message, log := s.log ++ [failure e], attempts := s.attempts + 1 }

/-- A source whose first exchange, made before anyone can ask, has given a token. -/
def primed (now : Instant) (margin : Duration) (t : AccessToken) : State :=
  (initial now margin).record (.token t)

/-- What can become of a source, new or with a first token. -/
inductive Reachable : State → Prop
  | initial (now : Instant) (margin : Duration) : Reachable (initial now margin)
  | primed (now : Instant) (margin : Duration) (t : AccessToken) : Reachable (primed now margin t)
  | step {s s' : State} : Reachable s → Step s s' → Reachable s'

/-- How many exchanges have been started for callers. -/
def exchanges (s : State) : Nat :=
  (s.history.filter fun e => match e with
    | .started _ => true
    | _ => false).length

/-- How call `c` ended. -/
def outcome? (s : State) (c : CallId) : Option Outcome :=
  s.history.findSome? fun e => match e with
    | .returned d o => if d = c then some o else none
    | _ => none

/-- The source, rendered with the text of its exchange; a token may be stored and stale. -/
def render (s : State) (exchange : String) : String :=
  renderRecord "RefreshingTokenSource" [("exchange", exchange), ("cached", boolText s.cached.isSome),
    ("margin", s.margin.render)]

end State

end IdentityClient.Refreshing
