import IdentityClient.Proofs.Refreshing.Lock
import IdentityClient.Simulation.Timeline

/-!
# One call at a time

A call that is alone in finding its way goes on until it is over, waits for its exchange, or queues behind a lock that
nobody is going to give back (`Timeline.Stop`). Where it stops does not depend on the alarms that are set
(`Timeline.exists_stop`), its own deadline among them.
-/

namespace IdentityClient

namespace Refreshing

/-- More than the steps that a call can take before it waits or is over. -/
def Phase.stepsLeft : Phase → Nat
  | .entered => 15
  | .missed => 14
  | .asking _ => 13
  | .queued _ => 12
  | .rechecking _ => 11
  | .comparing _ => 10
  | .consulting => 9
  | .starting => 8
  | .exchanging => 7
  | .ended _ => 6
  | .stored _ | .warned _ => 5
  | .cleared _ => 4
  | .written _ => 3
  | .unlocking _ => 2
  | .leaving _ => 1
  | .outside | .done => 0

namespace State

variable {s s' : State} {c d : CallId}

theorem Move.stepsLeft_lt (m : Move s c s') (made : s.phase c ≠ .outside) :
    (s'.phase c).stepsLeft < (s.phase c).stepsLeft := by
  cases m with
  | call hp => exact absurd hp made
  | quit hp =>
    cases hq : s.phase c with
    | entered | asking | queued | exchanging => simp [goto, note, Phase.stepsLeft]
    | _ => rw [hq] at hp; cases hp
  | _ => simp_all [goto, note, write, Phase.stepsLeft]

theorem Move.made (m : Move s c s') : s'.phase c ≠ .outside := by
  cases m <;> simp [goto, note, write]

/-- A call that is over after a step of its own has returned. -/
theorem outcome?_of_next (h : s.next c = some s') (isDone : s'.phase c = .done) : ∃ o, s'.outcome? c = some o := by
  cases hp : s.phase c with
  | leaving o =>
    rw [next, hp] at h
    cases h
    exact ⟨o, by simp [outcome?, note]⟩
  | ended o =>
    rw [next, hp] at h
    cases o <;> cases h <;> simp at isDone
  | entered | rechecking =>
    rw [next, hp] at h
    cases h
    unfold look at isDone
    split at isDone <;> simp [note, goto] at isDone
  | asking =>
    rw [next, hp] at h
    cases h
    unfold acquire at isDone
    split at isDone <;> simp [note, goto] at isDone
  | queued =>
    rw [next, hp] at h
    obtain ⟨-, h⟩ := Option.ite_none_right_eq_some.1 h
    cases h
    simp at isDone
  | comparing =>
    rw [next, hp] at h
    cases h
    rw [goto_phase_self] at isDone
    split at isDone <;> cases isDone
  | consulting =>
    rw [next, hp] at h
    dsimp only at h
    split at h <;> cases h <;> simp [note, goto] at isDone
  | outside | exchanging | done => rw [next, hp] at h; cases h
  | _ => rw [next, hp] at h; cases h; simp [note, goto] at isDone

/-- A call that cannot go on waits for its exchange or for the lock, unless it is over. -/
theorem waits_of_next_eq_none (h : s.next c = none) (made : s.phase c ≠ .outside) (going : s.phase c ≠ .done) :
    s.phase c = .exchanging ∨ ∃ n, s.phase c = .queued n := by
  cases hp : s.phase c with
  | exchanging => exact .inl rfl
  | queued n => exact .inr ⟨n, rfl⟩
  | outside => exact absurd hp made
  | done => exact absurd hp going
  | ended o => cases o <;> (rw [next, hp] at h; cases h)
  | consulting =>
    rw [next, hp] at h
    dsimp only at h
    split at h <;> cases h
  | _ => rw [next, hp] at h; cases h

theorem exists_drop (h : (s.phase c).canQuit) : ∃ s', s.drop c = some s' := by
  cases hp : s.phase c with
  | entered | asking | queued | exchanging => exact ⟨_, by rw [drop, hp]⟩
  | _ => rw [hp] at h; cases h

/-- Call `c` has nobody behind it who could go on once it has gone by. -/
def Lone (s : State) (c : CallId) : Prop := s.queue = [] ∨ ∃ d, d ≠ c ∧ s.owner = some d

theorem Orderly.lone (h : s.Orderly) (apart : (s.phase c).stand = .apart) : s.Lone c := by
  cases ho : s.owner with
  | none => exact .inl (h.idle ho)
  | some d =>
    refine .inr ⟨d, ?_, ho⟩
    rintro rfl
    exact (h.mem d).1 (by simp [line, ho]) apart

theorem Lone.queue_eq_nil (h : s.Lone c) (ho : s.owner = some c) : s.queue = [] := by
  rcases h with h | ⟨d, hd, h⟩
  · exact h
  · exact absurd (Option.some.inj (h.symm.trans ho)) hd

theorem Lone.leave (h : s.Lone c) (p : Phase) : ((s.leave c).goto c p).Lone c := by
  by_cases ho : s.owner = some c
  · rw [leave_of_owner ho]
    refine .inl ?_
    change s.queue.tail = []
    rw [h.queue_eq_nil ho]
    rfl
  · rw [leave_of_not_owner ho]
    rcases h with h | h
    · refine .inl ?_
      change s.queue.erase c = []
      rw [h]
      rfl
    · exact .inr h

theorem Lone.move (h : s.Lone c) (ord : s.Orderly) (m : Move s c s') : s'.Lone c := by
  cases m with
  | lock hp ho => exact .inl (ord.idle ho)
  | @queue n d hp ho =>
    refine .inr ⟨d, ?_, ho⟩
    rintro rfl
    exact (ord.mem d).1 (by simp [line, ho]) (by rw [hp]; rfl)
  | @unlock o hp =>
    have owns : s.owner = some c := ord.holder (by rw [hp]; rfl)
    have left := h.leave (.leaving o)
    rwa [State.leave, if_pos owns] at left
  | quit => exact h.leave .done
  | _ => exact h

/-- A move of a lone call hands the lock to nobody who waits for it. -/
theorem Lone.not_queued (h : s.Lone c) (ord : s.Orderly) (m : Move s c s') (handed : s'.owner = some d)
    (before : s.owner ≠ some d) (n : Nat) : s'.phase d ≠ .queued n := by
  cases m with
  | lock hp ho =>
    cases handed
    simp [goto]
  | unlock hp =>
    have owns : s.owner = some c := ord.holder (by rw [hp]; rfl)
    rw [release_eq, h.queue_eq_nil owns] at handed
    cases handed
  | quit hq =>
    by_cases owns : s.owner = some c
    · rw [leave_of_owner owns, h.queue_eq_nil owns] at handed
      cases handed
    · rw [leave_of_not_owner owns] at handed
      exact absurd handed before
  | _ => exact absurd handed before

end State

end Refreshing

namespace Simulation

open Refreshing

theorem Answer.exists_outcome {a : Answer} {d : Duration} (h : a.delay? = some d) (now : Instant) :
    ∃ o, a.outcomeAt? now = some o := by
  cases a with
  | token secret lifetime => cases lifetime <;> exact ⟨_, rfl⟩
  | failure e => exact ⟨_, rfl⟩
  | never => cases h

namespace Timeline

variable {l : Timeline} {s s' : State} {c d : CallId}

theorem adopt_of_lone (lone : l.state.Lone c) (ord : l.state.Orderly) (m : State.Move l.state c s') :
    l.adopt s' = { l with state := s' } := by
  unfold adopt
  cases ho : s'.owner with
  | none => simp
  | some d =>
    by_cases before : l.state.owner = some d
    · simp [before]
    · have awake := lone.not_queued ord m ho before
      cases hp : s'.phase d with
      | queued n => exact absurd hp (awake n)
      | _ => simp

/-- Where a call stops. -/
inductive Course where
  | ends (o : Outcome)
  /-- It waits, and nothing is going to come of that. -/
  | waits
  /-- It waits for an answer that comes after `d`. -/
  | exchanges (a : Answer) (d : Duration)

structure Stop where
  state : State
  script : Script
  course : Course

/-- The timeline in which call `c` has stopped. -/
def Stop.apply (k : Stop) (c : CallId) (l : Timeline) : Timeline :=
  let l' := { l with state := k.state, script := k.script }
  match k.course with
  | .ends o => l'.close c (some o)
  | .waits => l'
  | .exchanges a d => l'.setAlarm d c (.reply a)

/-- `k` is a stop that call `c` can come to from `s`. -/
structure Stop.Follows (k : Stop) (c : CallId) (s : State) : Prop where
  orderly : k.state.Orderly
  lone : k.state.Lone c
  now : k.state.now = s.now
  others : ∀ d, d ≠ c → k.state.phase d = s.phase d
  stepsLeft : (k.state.phase c).stepsLeft ≤ (s.phase c).stepsLeft
  done : ∀ o, k.course = .ends o → k.state.phase c = .done
  waits : k.course = .waits → k.state.phase c = .exchanging ∨ ∃ n, k.state.phase c = .queued n
  exchanges : ∀ a d, k.course = .exchanges a d →
    k.state.phase c = .exchanging ∧ a.delay? = some d ∧ d.nanos ≠ 0

theorem runCall_of_next_eq_none (h : l.state.next c = none) (n : Nat) : runCall c n l = l := by
  cases n with
  | zero => rfl
  | succ n => rw [runCall, h]

section
variable {n : Nat} (h : l.state.next c = some s') (ord : l.state.Orderly) (lone : l.state.Lone c)
include h ord lone

theorem runCall_done (hp : s'.phase c = .done) : runCall c (n + 1) l = { l with state := s' }.close c (s'.outcome? c) := by
  rw [runCall, h]
  dsimp only
  rw [adopt_of_lone lone ord (.of_next h), hp]

theorem runCall_exchanging (hp : s'.phase c = .exchanging) :
    runCall c (n + 1) l = runCall c n ({ l with state := s' }.exchange c) := by
  rw [runCall, h]
  dsimp only
  rw [adopt_of_lone lone ord (.of_next h), hp]

theorem runCall_going (going : s'.phase c ≠ .done) (exchanging : s'.phase c ≠ .exchanging) :
    runCall c (n + 1) l = runCall c n { l with state := s' } := by
  rw [runCall, h]
  dsimp only
  rw [adopt_of_lone lone ord (.of_next h)]
  split
  · exact absurd ‹_› exchanging
  · exact absurd ‹_› going
  · rfl

end

namespace Stop

theorem Follows.of_move {k : Stop} (h : k.Follows c s') (m : State.Move s c s') (made : s.phase c ≠ .outside) :
    k.Follows c s where
  orderly := h.orderly
  lone := h.lone
  now := h.now.trans m.now
  others := fun d hd => (h.others d hd).trans (m.phase_of_ne hd)
  stepsLeft := Nat.le_trans h.stepsLeft (Nat.le_of_lt (m.stepsLeft_lt made))
  done := h.done
  waits := h.waits
  exchanges := h.exchanges

theorem follows_of_waits (script : Script) (ord : s.Orderly) (lone : s.Lone c)
    (hp : s.phase c = .exchanging ∨ ∃ n, s.phase c = .queued n) : Follows ⟨s, script, .waits⟩ c s :=
  ⟨ord, lone, rfl, fun _ _ => rfl, Nat.le_refl _, nofun, fun _ => hp, nofun⟩

theorem follows_of_exchanges (script : Script) (ord : s.Orderly) (lone : s.Lone c) (hp : s.phase c = .exchanging)
    {a : Answer} {d : Duration} (ha : a.delay? = some d) (hd : d.nanos ≠ 0) : Follows ⟨s, script, .exchanges a d⟩ c s :=
  ⟨ord, lone, rfl, fun _ _ => rfl, Nat.le_refl _, nofun, nofun, fun _ _ h => by cases h; exact ⟨hp, ha, hd⟩⟩

theorem follows_of_ends (script : Script) (ord : s.Orderly) (lone : s.Lone c) (hp : s.phase c = .done) (o : Outcome) :
    Follows ⟨s, script, .ends o⟩ c s :=
  ⟨ord, lone, rfl, fun _ _ => rfl, Nat.le_refl _, fun _ _ => hp, nofun, nofun⟩

/-- A call whose exchange is behind it goes on until it is over. -/
theorem Follows.ends {k : Stop} (h : k.Follows c s) (few : (s.phase c).stepsLeft < 7) : ∃ o, k.course = .ends o := by
  have few' := Nat.lt_of_le_of_lt h.stepsLeft few
  cases hk : k.course with
  | ends o => exact ⟨o, rfl⟩
  | waits => rcases h.waits hk with hp | ⟨n, hp⟩ <;> simp [hp, Phase.stepsLeft] at few'
  | exchanges a d => simp [(h.exchanges a d hk).1, Phase.stepsLeft] at few'

theorem apply_of_ends {k : Stop} {o : Outcome} (h : k.course = .ends o) (l : Timeline) :
    k.apply c l = { l with state := k.state, script := k.script }.close c (some o) := by
  rw [apply, h]

end Stop

theorem deliver_of_exchanging (ord : l.state.Orderly) (lone : l.state.Lone c) (hp : l.state.phase c = .exchanging)
    {a : Answer} {o : Outcome} (ho : a.outcomeAt? l.state.now = some o) :
    l.deliver c a = { l with state := (l.state.goto c (.ended o)).note (.ended c o) } := by
  have finished : l.state.finish c o = some ((l.state.goto c (.ended o)).note (.ended c o)) := by
    rw [State.finish, hp]
  unfold deliver
  rw [ho, Option.bind_some, finished]
  exact adopt_of_lone lone ord (.of_finish finished)

/-- Within `n` steps from `s` call `c` stops, and where it stops does not depend on the alarms. -/
def Stops (n : Nat) (c : CallId) (s : State) (script : Script) : Prop :=
  ∃ k : Stop, k.Follows c s ∧ ∀ l : Timeline, l.state = s → l.script = script → runCall c n l = k.apply c l

section
variable {s : State} {n : Nat} {script : Script} (ord : s.Orderly) (lone : s.Lone c) (made : s.phase c ≠ .outside)
include ord lone made

theorem stops_of_next_eq_none (h : s.next c = none) (going : s.phase c ≠ .done) : Stops n c s script := by
  refine ⟨_, Stop.follows_of_waits script ord lone (State.waits_of_next_eq_none h made going), ?_⟩
  rintro l rfl rfl
  exact runCall_of_next_eq_none h n

variable (h : s.next c = some s')
include h

theorem stops_of_done (isDone : s'.phase c = .done) : Stops (n + 1) c s script := by
  have m := State.Move.of_next h
  obtain ⟨o, ho⟩ := State.outcome?_of_next h isDone
  refine ⟨_, (Stop.follows_of_ends script (ord.move m) (lone.move ord m) isDone o).of_move m made, ?_⟩
  rintro l rfl rfl
  rw [runCall_done h ord lone isDone, ho]
  rfl

theorem stops_of_going (going : s'.phase c ≠ .done) (exchanging : s'.phase c ≠ .exchanging)
    (later : Stops n c s' script) : Stops (n + 1) c s script := by
  obtain ⟨k, follows, runs⟩ := later
  refine ⟨k, follows.of_move (.of_next h) made, ?_⟩
  rintro l rfl rfl
  rw [runCall_going h ord lone going exchanging]
  exact runs _ rfl rfl

/-- A call that begins its exchange has its answer at once, later or never. -/
theorem stops_of_exchanging (exchanging : s'.phase c = .exchanging)
    (later : ∀ o rest, Stops n c ((s'.goto c (.ended o)).note (.ended c o)) rest) : Stops (n + 1) c s script := by
  have m := State.Move.of_next h
  have ord' := ord.move m
  have lone' := lone.move ord m
  have stays : s'.next c = none := by rw [State.next, exchanging]
  rcases taken : script.take with ⟨a, rest⟩
  cases delay : a.delay? with
  | none =>
    refine ⟨_, (Stop.follows_of_waits rest ord' lone' (.inl exchanging)).of_move m made, ?_⟩
    rintro l rfl rfl
    rw [runCall_exchanging h ord lone exchanging, exchange]
    simp only [taken, delay]
    exact runCall_of_next_eq_none stays n
  | some d =>
    by_cases atOnce : d.nanos = 0
    · obtain ⟨o, ho⟩ := Answer.exists_outcome delay s'.now
      obtain ⟨k, follows, runs⟩ := later o rest
      refine ⟨k, (follows.of_move (.finish o exchanging) m.made).of_move m made, ?_⟩
      rintro l rfl rfl
      rw [runCall_exchanging h ord lone exchanging, exchange]
      simp only [taken, delay, atOnce, if_pos]
      rw [deliver_of_exchanging ord' lone' exchanging ho]
      exact runs _ rfl rfl
    · refine ⟨_, (Stop.follows_of_exchanges rest ord' lone' exchanging delay atOnce).of_move m made, ?_⟩
      rintro l rfl rfl
      rw [runCall_exchanging h ord lone exchanging, exchange]
      simp only [taken, delay, atOnce, if_false]
      exact runCall_of_next_eq_none stays n

end

/-- A call that goes on alone stops somewhere. -/
theorem exists_stop (n : Nat) {s : State} (script : Script) (ord : s.Orderly) (lone : s.Lone c)
    (made : s.phase c ≠ .outside) (going : s.phase c ≠ .done) (enough : (s.phase c).stepsLeft < n) :
    Stops n c s script := by
  -- Each step brings the call nearer to its end and leaves it alone.
  induction n generalizing s script with
  | zero => exact absurd enough (Nat.not_lt_zero _)
  | succ n ih =>
    cases h : s.next c with
    | none => exact stops_of_next_eq_none ord lone made h going
    | some s' =>
      have m := State.Move.of_next h
      have ord' := ord.move m
      have lone' := lone.move ord m
      have nearer := m.stepsLeft_lt made
      by_cases isDone : s'.phase c = .done
      · exact stops_of_done ord lone made h isDone
      by_cases exchanging : s'.phase c = .exchanging
      · refine stops_of_exchanging ord lone made h exchanging fun o rest => ?_
        -- An answer that is there at once is a second step.
        have finish : State.Move s' c ((s'.goto c (.ended o)).note (.ended c o)) := .finish o exchanging
        have nearer' := finish.stepsLeft_lt m.made
        exact ih rest (ord'.move finish) (lone'.move ord' finish) finish.made (by simp [State.note]) (by omega)
      · exact stops_of_going ord lone made h isDone exchanging (ih script ord' lone' m.made isDone (by omega))

end Timeline

end Simulation

end IdentityClient
