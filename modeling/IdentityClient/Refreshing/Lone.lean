import IdentityClient.Refreshing.State

/-!
# From the end of an exchange to its being counted

The steps that the holder of the lock takes after its exchange, one after the other: cache, last failure,
log and counter are left as `State.record` says (`exists_recorded`).
-/

namespace IdentityClient.Refreshing.State

/-- Two states agree on everything that an exchange writes to. -/
structure SameRecord (s t : State) : Prop where
  cached : s.cached = t.cached
  lastFailure : s.lastFailure = t.lastFailure
  attempts : s.attempts = t.attempts
  log : s.log = t.log

theorem SameRecord.trans {s t u : State} (h : SameRecord s t) (h' : SameRecord t u) : SameRecord s u :=
  ⟨h.cached.trans h'.cached, h.lastFailure.trans h'.lastFailure, h.attempts.trans h'.attempts,
    h.log.trans h'.log⟩

theorem SameRecord.release (s : State) : SameRecord s.release s := by
  unfold State.release
  split <;> exact ⟨rfl, rfl, rfl, rfl⟩

variable {s : State} {c : CallId} {o : Outcome} {t : AccessToken} {e : TokenError}

theorem next_ended_token (h : s.phase c = .ended (.token t)) :
    s.next c = some ({ s with cached := some t }.goto c (.stored t)) := by
  rw [next, h]

theorem next_ended_failed (h : s.phase c = .ended (.failed e)) :
    s.next c = some ((s.write (failure e)).goto c (.warned e)) := by
  rw [next, h]

theorem next_stored (h : s.phase c = .stored t) :
    s.next c = some ({ s with lastFailure := none }.goto c (.cleared t)) := by
  rw [next, h]

theorem next_cleared (h : s.phase c = .cleared t) :
    s.next c = some ((s.write obtained).goto c (.written (.token t))) := by
  rw [next, h]

theorem next_warned (h : s.phase c = .warned e) :
    s.next c = some ({ s with lastFailure := some e.message }.goto c (.written (.failed e))) := by
  rw [next, h]

theorem next_written (h : s.phase c = .written o) :
    s.next c =
      some (({ s with attempts := s.attempts + 1 }.goto c (.unlocking o)).note (.recorded c o)) := by
  rw [next, h]

theorem next_unlocking (h : s.phase c = .unlocking o) :
    s.next c = some (s.release.goto c (.leaving o)) := by
  rw [next, h]

theorem next_leaving (h : s.phase c = .leaving o) :
    s.next c = some ((s.goto c .done).note (.returned c o)) := by
  rw [next, h]

theorem Reachable.next {s' : State} (r : Reachable s) (h : s.next c = some s') : Reachable s' :=
  .step r (.next c h)

/-- A call that is about to give the lock back can go on to its end, and writes nothing more. -/
theorem exists_done_of_unlocking (r : Reachable s) (h : s.phase c = .unlocking o) :
    ∃ s', Reachable s' ∧ s'.phase c = .done ∧ SameRecord s' s := by
  have r2 := (r.next (next_unlocking h)).next (next_leaving (goto_phase_self _ _ _))
  have same := SameRecord.release s
  exact ⟨_, r2, goto_phase_self _ _ _, ⟨same.cached, same.lastFailure, same.attempts, same.log⟩⟩

/-- A call whose exchange has come to `o` can go on to its end, and what it writes is recorded. -/
theorem exists_recorded (r : Reachable s) (h : s.phase c = .exchanging) (o : Outcome) :
    ∃ s', Reachable s' ∧ s'.phase c = .done ∧ SameRecord s' (s.record o) := by
  have r1 : Reachable ((s.goto c (.ended o)).note (.ended c o)) := .step r (.finish c o (by rw [finish, h]))
  cases o with
  | token t =>
    have r2 := r1.next (next_ended_token (goto_phase_self _ _ _))
    have r3 := (r2.next (next_stored (goto_phase_self _ _ _))).next (next_cleared (goto_phase_self _ _ _))
    have r4 := r3.next (next_written (goto_phase_self _ _ _))
    obtain ⟨s', r5, done, same⟩ := exists_done_of_unlocking r4 (goto_phase_self _ _ _)
    exact ⟨s', r5, done, same.trans (by constructor <;> simp only [goto, note, write, record])⟩
  | failed e =>
    have r2 := r1.next (next_ended_failed (goto_phase_self _ _ _))
    have r3 := r2.next (next_warned (goto_phase_self _ _ _))
    have r4 := r3.next (next_written (goto_phase_self _ _ _))
    obtain ⟨s', r5, done, same⟩ := exists_done_of_unlocking r4 (goto_phase_self _ _ _)
    exact ⟨s', r5, done, same.trans (by constructor <;> simp only [goto, note, write, record])⟩

end IdentityClient.Refreshing.State
