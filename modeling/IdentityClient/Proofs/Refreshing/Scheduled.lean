import IdentityClient.Proofs.Refreshing.Tally
import IdentityClient.Simulation.Calls

/-!
# What a scheduler makes of a source

In virtual time a source takes its own steps and no others: calls are made and go on, exchanges end, a call whose time
is up is given up, and time passes (`Timeline.reaches_run`). So what holds of every state of a source holds of one that
is asked with a time limit (`Source.reaches_ask`).
-/

namespace IdentityClient.Simulation

open Refreshing

/-- The source gets from one state to the other by steps of its own. -/
abbrev Reaches : State → State → Prop := Relation.ReflTransGen State.Step

theorem Reaches.of_elapse (s : State) (d : Duration) : Reaches s (s.elapse d) := .single (.elapse d)

namespace Timeline

variable {l : Timeline} {c : CallId}

theorem reaches_deliver (l : Timeline) (c : CallId) (a : Answer) : Reaches l.state (l.deliver c a).state := by
  unfold deliver
  split
  · rename_i s hs
    obtain ⟨o, -, ho⟩ := Option.bind_eq_some_iff.1 hs
    exact .single (.finish c o ho)
  · exact .refl

theorem reaches_exchange (l : Timeline) (c : CallId) : Reaches l.state (l.exchange c).state := by
  rcases ht : l.script.take with ⟨answer, script⟩
  simp only [exchange, ht]
  split
  · exact .refl
  · split
    · exact reaches_deliver { l with script } c answer
    · exact .refl

/-- A call that goes on takes its own steps; an exchange that is there at once ends. -/
theorem reaches_runCall (c : CallId) (fuel : Nat) (l : Timeline) : Reaches l.state (runCall c fuel l).state := by
  induction fuel generalizing l with
  | zero => exact .refl
  | succ fuel ih =>
    rw [runCall]
    split
    · exact .refl
    · rename_i s hs
      have st : Reaches l.state s := .single (.next c hs)
      split
      · exact st.trans ((reaches_exchange (l.adopt s) c).trans (ih _))
      · exact st
      · exact st.trans (ih (l.adopt s))

theorem reaches_settle (fuel : Nat) (l : Timeline) : Reaches l.state (settle fuel l).state := by
  induction fuel generalizing l with
  | zero => exact .refl
  | succ fuel ih =>
    rw [settle]
    split
    · exact .refl
    · rename_i c rest _
      exact (reaches_runCall c callSteps { l with ready := rest }).trans (ih _)

theorem reaches_expire (l : Timeline) (c : CallId) : Reaches l.state (l.expire c).state := by
  unfold expire
  split
  · rename_i s hs
    exact .single (.drop c hs)
  · exact .refl

theorem reaches_make (l : Timeline) (c : CallId) : Reaches l.state (l.make c).state := by
  unfold make
  split
  · exact .refl
  · rename_i s hs
    have st : Reaches l.state s := .single (.call c hs)
    dsimp only
    split <;> exact st

theorem reaches_fire (l : Timeline) (a : Alarm) : Reaches l.state (l.fire a).state := by
  have jump : Reaches l.state (l.jump a.due).state := .of_elapse _ _
  unfold fire
  dsimp only
  split
  · exact jump.trans (reaches_make { l.jump a.due with alarms := l.alarms.erase a } a.call)
  · exact jump.trans (reaches_deliver { l.jump a.due with alarms := l.alarms.erase a } a.call _)
  · exact jump.trans (reaches_expire { l.jump a.due with alarms := l.alarms.erase a } a.call)

theorem reaches_drain (fuel : Nat) (l : Timeline) : Reaches l.state (drain fuel l).state := by
  induction fuel generalizing l with
  | zero => exact .refl
  | succ fuel ih =>
    have settled := reaches_settle (2 * l.ready.length + l.state.queue.length + 1) l
    rw [drain]
    split
    · exact settled
    · exact settled.trans ((reaches_fire _ _).trans (ih _))

theorem reaches_schedule (l : Timeline) (j : Job) : Reaches l.state (l.schedule j).state := by
  have made (limits : List (CallId × Duration)) (n : CallId) :
      Reaches l.state ({ l with limits, nextCall := n }.make l.nextCall).state :=
    reaches_make { l with limits, nextCall := n } _
  unfold schedule
  dsimp only
  split
  · exact made _ _
  · exact .refl

/-- Whatever is scheduled, and whenever time is up, the source takes its own steps. -/
theorem reaches_run (l : Timeline) (jobs : List Job) : Reaches l.state (l.run jobs).1.state := by
  have scheduled : ∀ (jobs : List Job) (l : Timeline), Reaches l.state (jobs.foldl schedule l).state := by
    intro jobs
    induction jobs with
    | nil => exact fun _ => .refl
    | cons j jobs ih => exact fun l => (reaches_schedule l j).trans (ih _)
  exact (scheduled jobs l).trans (reaches_drain _ _)

end Timeline

/-- A refreshing source that is asked, with a time limit or without one, takes its own steps. -/
theorem Source.reaches_ask (l : Timeline) {now : Instant} (limit : Option Duration)
    (later : l.state.now.nanos ≤ now.nanos) :
    ∃ l', ((Source.refreshing l).ask now limit).source = .refreshing l' ∧ Reaches l.state l'.state := by
  -- Time passes first: the source has stood still since it was asked last.
  have waited : { l.state with now } = l.state.elapse ⟨now.nanos - l.state.now.nanos⟩ := by
    have sum : l.state.now.nanos + (now.nanos - l.state.now.nanos) = now.nanos := by omega
    rw [State.elapse, Instant.advance, sum]
  have run := Timeline.reaches_run { l with state := { l.state with now } } [{ limit }]
  have start : Reaches l.state { l.state with now } := by
    rw [waited]
    exact .of_elapse _ _
  simp only [ask, askRefreshing]
  split <;> exact ⟨_, rfl, start.trans run⟩

namespace Session

variable {ρ : Type}

theorem adopt?_source (x : Session ρ) (service : Option (Credentials.State ρ)) :
    (x.adopt? service).source = x.source := by
  cases service <;> rfl

/-- A service that asks for a token, for as long as its call may take, lets the source take its own steps. -/
theorem reaches_fetch (x : Session ρ) {l : Timeline} (hs : x.source = some (.refreshing l))
    (later : l.state.now.nanos ≤ x.now.nanos) (c : Credentials.CallId) (r : Request) (patience : Option Duration) :
    ∃ l', (x.fetch c r patience).source = some (.refreshing l') ∧ Reaches l.state l'.state := by
  simp only [fetch, hs]
  obtain ⟨l', source, reaches⟩ := Source.reaches_ask l _ later
  refine ⟨l', ?_, reaches⟩
  rw [← source]
  split
  · rw [adopt?_source]
  · repeat' split
    all_goals rw [adopt?_source]

end Session

end IdentityClient.Simulation
