import IdentityClient.Refreshing.State

/-!
# What one step can do

`Move s c s'`: call `c` goes from `s` to `s'`. There is one constructor for each thing that a call can do,
with what it finds and all that it changes; a step of the source is such a move or lets time pass
(`Step.move`). A move changes the phase of its own call only (`Move.phase_of_ne`), adds at most one event,
which is the call's own (`Move.history`), and takes no time (`Move.now`). Where a phase allows one move only,
a lemma says what that is (`Move.of_rechecking`, `Move.phase_of_unlocking`).
-/

namespace IdentityClient.Refreshing

/-- The call that an event belongs to. -/
def Event.call : Event → CallId
  | .called c | .hit c _ | .counted c _ | .queued c | .started c | .ended c _ | .recorded c _
  | .relayed c _ | .returned c _ | .dropped c => c

/-- Where a call may be given up. -/
def Phase.canQuit : Phase → Bool
  | .entered | .asking _ | .queued _ | .exchanging => true
  | _ => false

namespace State

/-- Call `c` takes a step of its own, or what it waits for happens. -/
inductive Move (s : State) (c : CallId) : State → Prop
  | call : s.phase c = .outside → Move s c ((s.goto c .entered).note (.called c))
  | hit {t : AccessToken} : s.phase c = .entered → s.fresh = some t →
      Move s c ((s.goto c (.leaving (.token t))).note (.hit c t))
  | miss : s.phase c = .entered → s.fresh = none → Move s c (s.goto c .missed)
  | count : s.phase c = .missed →
      Move s c ((s.goto c (.asking s.attempts)).note (.counted c s.attempts))
  | lock {n : Nat} : s.phase c = .asking n → s.owner = none →
      Move s c ({ s with owner := some c }.goto c (.rechecking n))
  | queue {n : Nat} {d : CallId} : s.phase c = .asking n → s.owner = some d →
      Move s c (({ s with queue := s.queue ++ [c] }.goto c (.queued n)).note (.queued c))
  | wake {n : Nat} : s.phase c = .queued n → s.owner = some c → Move s c (s.goto c (.rechecking n))
  | lateHit {n : Nat} {t : AccessToken} : s.phase c = .rechecking n → s.fresh = some t →
      Move s c ((s.goto c (.unlocking (.token t))).note (.hit c t))
  | lateMiss {n : Nat} : s.phase c = .rechecking n → s.fresh = none →
      Move s c (s.goto c (.comparing n))
  | unchanged {n : Nat} : s.phase c = .comparing n → s.attempts = n → Move s c (s.goto c .starting)
  | changed {n : Nat} : s.phase c = .comparing n → s.attempts ≠ n → Move s c (s.goto c .consulting)
  | relay {reason : String} : s.phase c = .consulting → s.lastFailure = some reason →
      Move s c ((s.goto c (.unlocking (.failed (.refreshFailed reason)))).note (.relayed c reason))
  | retry : s.phase c = .consulting → s.lastFailure = none → Move s c (s.goto c .starting)
  | start : s.phase c = .starting → Move s c ((s.goto c .exchanging).note (.started c))
  | finish (o : Outcome) : s.phase c = .exchanging →
      Move s c ((s.goto c (.ended o)).note (.ended c o))
  | store {t : AccessToken} : s.phase c = .ended (.token t) →
      Move s c ({ s with cached := some t }.goto c (.stored t))
  | warn {e : TokenError} : s.phase c = .ended (.failed e) →
      Move s c ((s.write (failure e)).goto c (.warned e))
  | clear {t : AccessToken} : s.phase c = .stored t →
      Move s c ({ s with lastFailure := none }.goto c (.cleared t))
  | tell {t : AccessToken} : s.phase c = .cleared t →
      Move s c ((s.write obtained).goto c (.written (.token t)))
  | keep {e : TokenError} : s.phase c = .warned e →
      Move s c ({ s with lastFailure := some e.message }.goto c (.written (.failed e)))
  | record {o : Outcome} : s.phase c = .written o →
      Move s c (({ s with attempts := s.attempts + 1 }.goto c (.unlocking o)).note (.recorded c o))
  | unlock {o : Outcome} : s.phase c = .unlocking o → Move s c (s.release.goto c (.leaving o))
  | ret {o : Outcome} : s.phase c = .leaving o →
      Move s c ((s.goto c .done).note (.returned c o))
  | quit : (s.phase c).canQuit → Move s c (((s.leave c).goto c .done).note (.dropped c))

variable {s s' : State} {c d : CallId} {o : Outcome}

theorem Move.of_next (h : s.next c = some s') : Move s c s' := by
  unfold next at h
  split at h
  case h_1 | h_2 | h_3 => cases h
  case h_4 hp =>
    cases h
    unfold look
    split
    · exact .hit hp ‹_›
    · exact .miss hp ‹_›
  case h_5 hp => cases h; exact .count hp
  case h_6 n hp =>
    cases h
    unfold acquire
    split
    · exact .lock hp ‹_›
    · exact .queue hp ‹_›
  case h_7 n hp =>
    split at h
    · cases h; exact .wake hp ‹_›
    · cases h
  case h_8 n hp =>
    cases h
    unfold look
    split
    · exact .lateHit hp ‹_›
    · exact .lateMiss hp ‹_›
  case h_9 n hp =>
    cases h
    split
    · exact .unchanged hp ‹_›
    · exact .changed hp ‹_›
  case h_10 hp =>
    split at h
    · cases h; exact .relay hp ‹_›
    · cases h; exact .retry hp ‹_›
  case h_11 hp => cases h; exact .start hp
  case h_12 hp => cases h; exact .store hp
  case h_13 hp => cases h; exact .warn hp
  case h_14 hp => cases h; exact .clear hp
  case h_15 hp => cases h; exact .tell hp
  case h_16 hp => cases h; exact .keep hp
  case h_17 hp => cases h; exact .record hp
  case h_18 hp => cases h; exact .unlock hp
  case h_19 hp => cases h; exact .ret hp

theorem Move.of_call (h : s.call c = some s') : Move s c s' := by
  unfold State.call at h
  split at h
  · cases h; exact .call ‹_›
  · cases h

theorem Move.of_finish (h : s.finish c o = some s') : Move s c s' := by
  unfold State.finish at h
  split at h
  · cases h; exact .finish o ‹_›
  · cases h

theorem Move.of_drop (h : s.drop c = some s') : Move s c s' := by
  unfold drop at h
  split at h
  case h_5 => cases h
  all_goals
    rename_i hp
    cases h
    exact .quit (by rw [hp]; rfl)

theorem Step.move (h : Step s s') : (∃ c, Move s c s') ∨ ∃ d, s' = s.elapse d := by
  cases h with
  | call c h => exact .inl ⟨c, .of_call h⟩
  | next c h => exact .inl ⟨c, .of_next h⟩
  | finish c o h => exact .inl ⟨c, .of_finish h⟩
  | drop c h => exact .inl ⟨c, .of_drop h⟩
  | elapse d => exact .inr ⟨d, rfl⟩

theorem release_eq (s : State) : s.release = { s with owner := s.queue.head?, queue := s.queue.tail } := by
  obtain ⟨_, _, _, _, _, _, queue, _, _, _⟩ := s
  cases queue <;> rfl

theorem leave_of_owner (h : s.owner = some c) :
    s.leave c = { s with owner := s.queue.head?, queue := s.queue.tail } := by
  rw [leave, if_pos h, release_eq]

theorem leave_of_not_owner (h : s.owner ≠ some c) : s.leave c = { s with queue := s.queue.erase c } :=
  if_neg h

/-- Coming off the lock changes nothing but who has it and who waits for it. -/
theorem leave_eq (s : State) (c : CallId) : ∃ owner queue, s.leave c = { s with owner, queue } := by
  by_cases h : s.owner = some c
  · exact ⟨_, _, leave_of_owner h⟩
  · exact ⟨s.owner, _, leave_of_not_owner h⟩

/-- A move of one call leaves the others where they are. -/
theorem Move.phase_of_ne (m : Move s c s') (h : d ≠ c) : s'.phase d = s.phase d := by
  cases m
  case quit => obtain ⟨_, _, e⟩ := leave_eq s c; simp [goto, note, e, h]
  all_goals simp [goto, note, write, release_eq, h]

/-- What a call keeps that moves, all keep. -/
theorem Move.same {β : Type} (m : Move s c s') (f : Phase → β) {p p' : Phase} (hp : s.phase c = p)
    (hp' : s'.phase c = p') (h : f p' = f p) (d : CallId) : f (s'.phase d) = f (s.phase d) := by
  by_cases hd : d = c
  · rw [hd, hp, hp', h]
  · rw [m.phase_of_ne hd]

theorem Move.phase_of_queued {n : Nat} (m : Move s c s') (h : s.phase c = .queued n) :
    s'.phase c = .rechecking n ∨ .dropped c ∈ s'.history := by
  cases m with
  | wake hp => rw [h] at hp; cases hp; exact .inl (goto_phase_self ..)
  | quit => exact .inr (List.mem_cons_self ..)
  | _ => simp_all

/-- What a call does that has the lock and looks at the cache again. -/
theorem Move.of_rechecking {n : Nat} (m : Move s c s') (h : s.phase c = .rechecking n) :
    (∃ t, s.fresh = some t ∧ .hit c t ∈ s'.history) ∨ (s.fresh = none ∧ s'.phase c = .comparing n) := by
  cases m with
  | lateHit _ hf => exact .inl ⟨_, hf, List.mem_cons_self ..⟩
  | lateMiss hp hf => rw [h] at hp; cases hp; exact .inr ⟨hf, goto_phase_self ..⟩
  | quit hq => rw [h] at hq; cases hq
  | _ => simp_all

theorem Move.phase_of_unlocking (m : Move s c s') (h : s.phase c = .unlocking o) :
    s'.phase c = .leaving o := by
  cases m with
  | unlock hp => rw [h] at hp; cases hp; exact goto_phase_self ..
  | quit hq => rw [h] at hq; cases hq
  | _ => simp_all

theorem Move.returned_of_leaving (m : Move s c s') (h : s.phase c = .leaving o) :
    .returned c o ∈ s'.history := by
  cases m with
  | ret hp => rw [h] at hp; cases hp; exact List.mem_cons_self ..
  | quit hq => rw [h] at hq; cases hq
  | _ => simp_all

theorem Move.history (m : Move s c s') :
    s'.history = s.history ∨ ∃ e : Event, e.call = c ∧ s'.history = e :: s.history := by
  cases m
  case quit => obtain ⟨_, _, e⟩ := leave_eq s c; simp [goto, note, e, Event.call]
  all_goals simp [goto, note, write, release_eq, Event.call]

/-- What has been found when an event happens. -/
def Finds (s : State) : Event → Prop
  | .called c => s.phase c = .outside
  | .hit c t => s.fresh = some t ∧ (s.phase c = .entered ∨ ∃ n, s.phase c = .rechecking n)
  | .counted c n => s.phase c = .missed ∧ s.attempts = n
  | .queued c => ∃ n d, s.phase c = .asking n ∧ s.owner = some d
  | .started c => s.phase c = .starting
  | .ended c _ => s.phase c = .exchanging
  | .recorded c o => s.phase c = .written o
  | .relayed c reason => s.phase c = .consulting ∧ s.lastFailure = some reason
  | .returned c o => s.phase c = .leaving o
  | .dropped c => (s.phase c).canQuit

theorem Move.finds {e : Event} (m : Move s c s') (h : s'.history = e :: s.history) : s.Finds e := by
  have adds {x : Event} (hx : s'.history = x :: s.history) (finds : s.Finds x) : s.Finds e :=
    (List.cons.inj (hx.symm.trans h)).1 ▸ finds
  cases m with
  | call hp => exact adds rfl hp
  | hit hp hf => exact adds rfl ⟨hf, .inl hp⟩
  | lateHit hp hf => exact adds rfl ⟨hf, .inr ⟨_, hp⟩⟩
  | count hp => exact adds rfl ⟨hp, rfl⟩
  | queue hp ho => exact adds rfl ⟨_, _, hp, ho⟩
  | start hp | finish _ hp | record hp | ret hp => exact adds rfl hp
  | relay hp hf => exact adds rfl ⟨hp, hf⟩
  | quit hq =>
    obtain ⟨_, _, e⟩ := leave_eq s c
    exact adds (x := .dropped c) (by rw [e]; rfl) hq
  | unlock => rw [release_eq] at h; exact absurd h.symm (List.cons_ne_self _ _)
  | _ => exact absurd h.symm (List.cons_ne_self _ _)

theorem Step.finds {e : Event} (st : Step s s') (h : s'.history = e :: s.history) : s.Finds e := by
  obtain ⟨c, m⟩ | ⟨d, rfl⟩ := st.move
  · exact m.finds h
  · exact absurd h.symm (List.cons_ne_self _ _)

theorem Step.mem_history {e : Event} (st : Step s s') (h : e ∈ s.history) : e ∈ s'.history := by
  obtain ⟨c, m⟩ | ⟨d, rfl⟩ := st.move
  · obtain hh | ⟨_, _, hh⟩ := m.history <;> rw [hh]
    · exact h
    · exact List.mem_cons_of_mem _ h
  · exact h

theorem Step.suffix_history (st : Step s s') : s.history <:+ s'.history := by
  obtain ⟨c, m⟩ | ⟨d, rfl⟩ := st.move
  · obtain hh | ⟨e, -, hh⟩ := m.history
    · exact hh ▸ List.suffix_refl _
    · exact hh ▸ List.suffix_cons ..
  · exact List.suffix_refl _

theorem Move.now (m : Move s c s') : s'.now = s.now := by
  cases m
  case quit => obtain ⟨_, _, e⟩ := leave_eq s c; simp [goto, note, e]
  all_goals simp [goto, note, write, release_eq]

theorem Move.margin (m : Move s c s') : s'.margin = s.margin := by
  cases m
  case quit => obtain ⟨_, _, e⟩ := leave_eq s c; simp [goto, note, e]
  all_goals simp [goto, note, write, release_eq]

end State

end IdentityClient.Refreshing
