import IdentityClient.Simulation.Script

/-!
# A refreshing source in virtual time

The steps of a source in the order in which one scheduler takes them: a call goes on until it waits,
calls that can go on do so in the order in which they became able to, and when none can, time jumps to
the next alarm. Alarms have the resolution of the timer, and time jumps by whole milliseconds.
-/

namespace IdentityClient.Simulation

open Refreshing

inductive AlarmKind where
  /-- The call is to be made. -/
  | start
  /-- Its exchange has come to an end. -/
  | reply (r : Answer)
  /-- Its time is up. -/
  | deadline
  deriving DecidableEq, Repr

structure Alarm where
  /-- The tick of the timer at which it goes off. -/
  due : Nat
  call : CallId
  kind : AlarmKind
  deriving DecidableEq, Repr

/-- A call that is to be made `start` from now and given up `limit` after that. -/
structure Job where
  start : Duration := ⟨0⟩
  limit : Option Duration := none
  deriving DecidableEq, Repr

/-- How a call ended: with an outcome, or given up. -/
structure Ending where
  outcome : Option Outcome
  at_ : Instant
  deriving DecidableEq, Repr

structure Timeline where
  state : State
  script : Script
  alarms : List Alarm
  /-- The calls that can go on. -/
  ready : List CallId
  /-- The limits of calls that are yet to be made. -/
  limits : List (CallId × Duration)
  endings : List (CallId × Ending)
  nextCall : CallId

namespace Timeline

/-- Nothing has been asked yet. -/
def start (state : State) (script : Script) : Timeline := ⟨state, script, [], [], [], [], 0⟩

def setAlarm (l : Timeline) (after : Duration) (c : CallId) (kind : AlarmKind) : Timeline :=
  { l with alarms := l.alarms ++ [⟨(l.state.now.advance after).tick, c, kind⟩] }

/-- Takes over a step: who has been handed the lock by it can go on. -/
def adopt (l : Timeline) (s : State) : Timeline :=
  let woken := match s.owner with
    | some d => if l.state.owner ≠ some d then
        match s.phase d with
        | .queued _ => [d]
        | _ => []
      else []
    | none => []
  { l with state := s, ready := l.ready ++ woken }

/-- Notes how call `c` has ended, and turns its alarms off. -/
def close (l : Timeline) (c : CallId) (outcome : Option Outcome) : Timeline :=
  { l with
    endings := (c, ⟨outcome, l.state.now⟩) :: l.endings
    alarms := l.alarms.filter fun a => a.call != c }

/-- The exchange of call `c` has come to `answer`. -/
def deliver (l : Timeline) (c : CallId) (answer : Answer) : Timeline :=
  match (answer.outcomeAt? l.state.now).bind (l.state.finish c) with
  | some s => l.adopt s
  | none => l

/-- Call `c` has started its exchange: it takes the next answer, which may be there at once. -/
def exchange (l : Timeline) (c : CallId) : Timeline :=
  let (answer, script) := l.script.take
  let l := { l with script }
  match answer.delay? with
  | none => l
  | some d => if d.nanos = 0 then l.deliver c answer else l.setAlarm d c (.reply answer)

/-- More steps than a call takes without waiting. -/
def callSteps : Nat := 32

/-- Lets call `c` go on until it is done or has to wait. -/
def runCall (c : CallId) : (fuel : Nat) → Timeline → Timeline
  | 0, l => l
  | fuel + 1, l =>
    match l.state.next c with
    | none => l
    | some s =>
      let l := l.adopt s
      match s.phase c with
      | .exchanging => runCall c fuel (l.exchange c)
      | .done => l.close c (s.outcome? c)
      | _ => runCall c fuel l

/-- Lets the calls go on that can, in turn. -/
def settle : (fuel : Nat) → Timeline → Timeline
  | 0, l => l
  | fuel + 1, l =>
    match l.ready with
    | [] => l
    | c :: rest => settle fuel (runCall c callSteps { l with ready := rest })

/-- Whether alarm `a` goes off before `b`, which was set earlier: deadlines wait for replies. -/
def goesBefore (a b : Alarm) : Bool :=
  a.due < b.due || (a.due == b.due && b.kind == .deadline && a.kind != .deadline)

/-- The alarm that goes off next. -/
def nextAlarm? : List Alarm → Option Alarm
  | [] => none
  | a :: rest =>
    match nextAlarm? rest with
    | some b => if goesBefore b a then some b else some a
    | none => some a

/-- Lets time pass up to the tick `due`. -/
def jump (l : Timeline) (due : Nat) : Timeline :=
  { l with state := { l.state with now := l.state.now.jump due } }

/-- Gives call `c` up if it is still going on. -/
def expire (l : Timeline) (c : CallId) : Timeline :=
  match l.state.drop c with
  | some s => (l.adopt s).close c none
  | none => l

/-- Makes call `c`. -/
def make (l : Timeline) (c : CallId) : Timeline :=
  match l.state.call c with
  | none => l
  | some s =>
    let l := { l.adopt s with ready := l.ready ++ [c] }
    match l.limits.lookup c with
    | some d => l.setAlarm d c .deadline
    | none => l

/-- An alarm goes off. -/
def fire (l : Timeline) (a : Alarm) : Timeline :=
  let l := { l.jump a.due with alarms := l.alarms.erase a }
  match a.kind with
  | .start => l.make a.call
  | .reply r =>
    let l := l.deliver a.call r
    { l with ready := l.ready ++ [a.call] }
  | .deadline => l.expire a.call

/-- Lets calls go on and alarms go off until nothing more can happen. -/
def drain : (fuel : Nat) → Timeline → Timeline
  | 0, l => l
  | fuel + 1, l =>
    let l := settle (2 * l.ready.length + l.state.queue.length + 1) l
    match nextAlarm? l.alarms with
    | none => l
    | some a => drain fuel (l.fire a)

/-- Schedules a job, and gives the number of its call. -/
def schedule (l : Timeline) (j : Job) : Timeline :=
  let c := l.nextCall
  let limits := match j.limit with
    | some d => (c, d) :: l.limits
    | none => l.limits
  let l := { l with limits, nextCall := c + 1 }
  if j.start.nanos = 0 then l.make c else l.setAlarm j.start c .start

/-- Runs jobs side by side until nothing more can happen; for each, how it ended, if it did. -/
def run (l : Timeline) (jobs : List Job) : Timeline × List (Option Ending) :=
  let first := l.nextCall
  -- A job has one alarm for its start, one for its exchange and one for its limit.
  let l := drain (3 * jobs.length + 1) (jobs.foldl schedule l)
  (l, (List.range jobs.length).map fun i => l.endings.lookup (first + i))

/-- A source whose first exchange is made before anyone can ask; the error if it fails. -/
def prime (now : Instant) (margin : Duration) (script : Script) :
    Except TokenError Timeline × List LogRecord :=
  let (answer, script) := script.take
  let at_ := match answer.delay? with
    | none => now
    | some d => now.after d
  match answer.outcomeAt? at_ with
  | some (.token t) => (.ok (start (State.primed at_ margin t) script), [State.obtained])
  | some (.failed e) => (.error e, [State.failure e])
  | none => (.ok (start (State.initial now margin) script), [])

/-- Lets time pass while nobody calls. -/
def advance (l : Timeline) (d : Duration) : Timeline := { l with state := l.state.elapse d }

end Timeline

end IdentityClient.Simulation
