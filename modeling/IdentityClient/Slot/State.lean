import IdentityClient.Slot.Error
import IdentityClient.Text.Quoted

/-!
# A value that is constructed once

Any number of threads may ask a slot for its value. The first one constructs it while the others wait;
if the construction fails or panics the slot is empty again and those who wait try in turn. The value
can be read without the lock; the stage, which says whether a construction is going on, only under it.

A thread is a sequence of atomic steps: `State.next` is the step that a thread takes in its phase, if
it can take one. Waking for no reason is a step, too (`State.wake`), and so is a look at the value without
asking for it (`State.get`). A panic of a thread that has the lock would leave the lock unusable. What
happened is kept in a list, the latest event first.
-/

namespace IdentityClient.Slot

abbrev Thread := Nat

/-- What the lock guards: whether a construction is going on or has succeeded. -/
inductive Stage where
  | empty
  | inProgress
  | ready
  deriving DecidableEq, Repr

/-- How a construction, or a call that asks for the value, ends. -/
inductive Outcome (α : Type) where
  | value (v : α)
  | failed (e : ServiceInitError)
  | panicked
  deriving DecidableEq, Repr

def Outcome.isPanic {α : Type} : Outcome α → Bool
  | .panicked => true
  | _ => false

/-- Where a thread stands. -/
inductive Phase (α : Type) where
  | outside
  /-- In a call, before its first look at the value. -/
  | entered
  /-- Wants the lock. -/
  | locking
  /-- Has the lock and looks at value and stage. -/
  | looking
  /-- Has given the lock back and waits to be notified. -/
  | waiting
  /-- Has been notified and wants the lock again. -/
  | woken
  /-- Runs its constructor, without the lock. -/
  | constructing
  /-- Its constructor has ended; wants the lock. -/
  | storing (o : Outcome α)
  /-- Has the lock and records the outcome. -/
  | recording (o : Outcome α)
  /-- Has the lock; the value is in place, the stage is not. -/
  | settling (o : Outcome α)
  /-- Has given the lock back and must still notify those who wait. -/
  | notifying (o : Outcome α)
  | leaving (o : Outcome α)
  deriving DecidableEq, Repr

inductive Event (α : Type) where
  | called (t : Thread)
  | started (t : Thread)
  | ended (t : Thread) (o : Outcome α)
  | returned (t : Thread) (o : Outcome α)
  /-- A thread looks at the value and constructs nothing. -/
  | got (t : Thread) (v : Option α)
  deriving DecidableEq, Repr

structure State (α : Type) where
  /-- The service that the value belongs to. -/
  service : String
  stage : Stage
  value : Option α
  /-- The thread that has the lock. -/
  owner : Option Thread
  /-- A thread has panicked while it had the lock. -/
  poisoned : Bool
  phase : Thread → Phase α
  history : List (Event α)

namespace State

variable {α : Type}

/-- A slot that nobody has asked yet. -/
def initial (service : String := "") : State α :=
  ⟨service, .empty, none, none, false, fun _ => .outside, []⟩

/-- The slot with thread `t` in phase `p`. -/
def goto (s : State α) (t : Thread) (p : Phase α) : State α :=
  { s with phase := fun u => if u = t then p else s.phase u }

@[simp] theorem goto_phase_self (s : State α) (t : Thread) (p : Phase α) : (s.goto t p).phase t = p := by
  simp [goto]

theorem goto_phase_of_ne (s : State α) {t u : Thread} (p : Phase α) (h : u ≠ t) :
    (s.goto t p).phase u = s.phase u := by
  simp [goto, h]

def note (s : State α) (e : Event α) : State α := { s with history := e :: s.history }

/-- Takes the lock if it is free; if it is unusable, the thread goes on with `refused`. -/
def acquire (s : State α) (t : Thread) (p refused : Phase α) : Option (State α) :=
  match s.owner with
  | none => some (if s.poisoned then s.goto t refused else { s with owner := some t }.goto t p)
  | some _ => none

/-- What a call comes to that finds the lock unusable, unless it panics already. -/
def refusal (s : State α) : Outcome α := .failed (.poisoned s.service)

def release (s : State α) : State α := { s with owner := none }

/-- Wakes everyone who waits. -/
def notifyAll (s : State α) : State α :=
  { s with phase := fun u => match s.phase u with
      | .waiting => .woken
      | p => p }

/-- Thread `t` asks for the value. -/
def call (s : State α) (t : Thread) : Option (State α) :=
  match s.phase t with
  | .outside => some ((s.goto t .entered).note (.called t))
  | _ => none

/-- Thread `t` is woken without being notified. -/
def wake (s : State α) (t : Thread) : Option (State α) :=
  match s.phase t with
  | .waiting => some (s.goto t .woken)
  | _ => none

/-- Thread `t` looks at the value and constructs nothing. -/
def get (s : State α) (t : Thread) : State α := s.note (.got t s.value)

/-- What a thread does that has the lock and looks at value and stage. -/
def look (s : State α) (t : Thread) : State α :=
  match s.value, s.stage with
  | some v, _ => s.release.goto t (.leaving (.value v))
  | none, .inProgress => s.release.goto t .waiting
  | none, _ => ({ s.release with stage := .inProgress }.goto t .constructing).note (.started t)

/-- The constructor of thread `t` ends with `c`. -/
def finish (s : State α) (t : Thread) (c : Outcome α) : State α :=
  let poisoned := s.poisoned || (c.isPanic && decide (s.owner = some t))
  ({ s with poisoned }.goto t (.storing c)).note (.ended t c)

/-- Puts the outcome of a construction in place; a value that is there stays. -/
def record (s : State α) (t : Thread) (o : Outcome α) : State α :=
  match o with
  | .value v =>
    let kept := s.value.getD v
    { s with value := some kept }.goto t (.settling (.value kept))
  | o => s.goto t (.settling o)

/-- The stage after an outcome. -/
def stageAfter : Outcome α → Stage
  | .value _ => .ready
  | _ => .empty

/-- The next step of thread `t`, whose constructor would end with `c`; none if `t` is not in a call
or cannot go on. -/
def next (s : State α) (t : Thread) (c : Outcome α) : Option (State α) :=
  match s.phase t with
  | .outside => none
  | .entered =>
    match s.value with
    | some v => some (s.goto t (.leaving (.value v)))
    | none => some (s.goto t .locking)
  | .locking => s.acquire t .looking (.leaving s.refusal)
  | .looking => some (s.look t)
  | .waiting => none
  | .woken => s.acquire t .looking (.leaving s.refusal)
  | .constructing => some (s.finish t c)
  | .storing o => s.acquire t (.recording o) (.notifying (if o.isPanic then o else s.refusal))
  | .recording o => some (s.record t o)
  | .settling o => some ({ s.release with stage := stageAfter o }.goto t (.notifying o))
  | .notifying o => some (s.notifyAll.goto t (.leaving o))
  | .leaving o => some ((s.goto t .outside).note (.returned t o))

/-- One step of any thread. -/
inductive Step : State α → State α → Prop
  | call {s s' : State α} (t : Thread) : s.call t = some s' → Step s s'
  | next {s s' : State α} (t : Thread) (c : Outcome α) : s.next t c = some s' → Step s s'
  | wake {s s' : State α} (t : Thread) : s.wake t = some s' → Step s s'
  | get {s : State α} (t : Thread) : Step s (s.get t)

/-- What can become of a slot that nobody has asked yet. -/
inductive Reachable : State α → Prop
  | initial (service : String) : Reachable (initial service)
  | step {s s' : State α} : Reachable s → Step s s' → Reachable s'

/-- How many constructions have been started. -/
def constructions (s : State α) : Nat :=
  (s.history.filter fun e => match e with
    | .started _ => true
    | _ => false).length

def render (s : State α) (service : String) : String :=
  renderRecord "Slot" [("service", quoted service), ("initialized", boolText s.value.isSome)]

end State

end IdentityClient.Slot
