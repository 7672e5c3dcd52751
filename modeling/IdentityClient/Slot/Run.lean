import IdentityClient.Slot.State

/-!
# Running the threads of a slot

A schedule that lets one thread go on until it is done or has to wait, and what comes of a first
caller that others wait for. Every schedule consists of steps of the slot (`reachable_runThread`).
-/

namespace IdentityClient.Slot.State

variable {α : Type}

/-- More steps than a call takes without waiting. -/
def callSteps : Nat := 16

/-- Lets thread `t` take up to `fuel` steps, as long as it can and stays out of `stop`. -/
def runUntil (stop : Phase α → Bool) (t : Thread) (c : Outcome α) : (fuel : Nat) → State α → State α
  | 0, s => s
  | fuel + 1, s =>
    if stop (s.phase t) then s
    else match s.next t c with
      | some s => runUntil stop t c fuel s
      | none => s

/-- Lets thread `t` go on until it is done or has to wait. -/
def runThread (t : Thread) (c : Outcome α) (s : State α) : State α :=
  runUntil (fun _ => false) t c callSteps s

/-- Thread `t` asks for the value and goes on until it is done or has to wait. -/
def ask (t : Thread) (c : Outcome α) (s : State α) : State α :=
  runThread t c ((s.call t).getD s)

/-- How the last call of thread `t` ended. -/
def lastReturn? (s : State α) (t : Thread) : Option (Outcome α) :=
  s.history.findSome? fun e => match e with
    | .returned u o => if u = t then some o else none
    | _ => none

/-- Thread 0 asks and is held back in its constructor, while threads 1 to `waiters` ask; then thread 0
goes on, and the others after it, one by one. -/
def race (first rest : Outcome α) (waiters : Nat) (s : State α) : State α :=
  let isConstructing (p : Phase α) : Bool := match p with
    | .constructing => true
    | _ => false
  let others := (List.range waiters).map (· + 1)
  let s := runUntil isConstructing 0 first callSteps ((s.call 0).getD s)
  let s := others.foldl (fun s t => ask t rest s) s
  let s := runThread 0 first s
  others.foldl (fun s t => runThread t rest s) s

theorem Reachable.runUntil {s : State α} (stop : Phase α → Bool) (t : Thread) (c : Outcome α)
    (fuel : Nat) (h : Reachable s) : Reachable (State.runUntil stop t c fuel s) := by
  induction fuel generalizing s with
  | zero => exact h
  | succ fuel ih =>
    rw [State.runUntil]
    split
    · exact h
    · split
      · rename_i s' hs'
        exact ih (h.step (.next t c hs'))
      · exact h

theorem reachable_runThread {s : State α} (t : Thread) (c : Outcome α) (h : Reachable s) :
    Reachable (runThread t c s) := h.runUntil _ t c _

end IdentityClient.Slot.State
