import IdentityClient.Proofs.Slot.Guarded
import IdentityClient.Slot.Run

/-!
# Nobody waits in vain

A thread goes to wait only while another claims the slot, and whoever claims it notifies all who wait after it
has released it. In between the thread owes them that (`Phase.owesNotice`), and nobody waits without one that
does (`Reachable.exists_owesNotice`). A thread that owes it can be held up by the lock only, and whoever has the
lock can go on; so when nobody can go on any more, everyone is out of its call (`waiting_is_noticed`).
-/

namespace IdentityClient.Slot

variable {α : Type}

/-- The thread claims the slot, or has released it and must still notify those who wait. -/
def Phase.owesNotice : Phase α → Bool
  | .notifying _ => true
  | p => p.claims

theorem Phase.owesNotice_iff {p : Phase α} : p.owesNotice ↔ p.claims ∨ ∃ o, p = .notifying o := by
  cases p <;> simp [owesNotice, claims, role, Role.claims]

theorem Phase.owesNotice_of_wantsLook {p : Phase α} (h : p.wantsLook) : p.owesNotice = false := by
  cases p <;> first | rfl | cases h

namespace State

variable {s s' : State α} {t u : Thread} {o : Outcome α}

theorem notifyAll_phase_ne (s : State α) (u : Thread) : s.notifyAll.phase u ≠ .waiting := by
  intro h
  cases hp : s.phase u <;> simp [notifyAll, hp] at h

theorem notified_phase_ne (s : State α) (t u : Thread) (o : Outcome α) :
    (s.notifyAll.goto u (.leaving o)).phase t ≠ .waiting := by
  by_cases h : t = u
  · rw [h, goto_phase_self]
    exact nofun
  · rw [goto_phase_of_ne _ _ h]
    exact notifyAll_phase_ne s t

/-- A thread goes on owing a notice until nobody waits. -/
theorem Move.owesNotice (m : Move s u s') (h : (s.phase u).owesNotice) :
    (s'.phase u).owesNotice ∨ ∀ t, s'.phase t ≠ .waiting := by
  cases m with
  | notify => exact .inr fun t => notified_phase_ne s t u _
  | finish => exact .inl (congrArg Phase.owesNotice (goto_phase_self ..))
  | relock | refuseStore | keep | settle => exact .inl (congrArg Phase.owesNotice (goto_phase_self ..))
  | @discard o =>
    refine .inl (Eq.trans (congrArg Phase.owesNotice (goto_phase_self ..)) ?_)
    cases o <;> rfl
  | lock hp | refuse hp => rw [Phase.owesNotice_of_wantsLook hp] at h; cases h
  | _ => simp_all [Phase.owesNotice, Phase.claims, Phase.role, Role.claims]

theorem Guarded.exists_owesNotice (g : Guarded s) (hl : s.phase u = .looking) (hs : s.stage = .inProgress) :
    ∃ v, v ≠ u ∧ (s.phase v).owesNotice := by
  obtain ⟨v, hv⟩ := g.stage.1 hs
  have hne : v ≠ u := by
    rintro rfl
    rw [hl] at hv
    cases hv
  exact ⟨v, hne, Phase.owesNotice_iff.2 (.inl hv)⟩

theorem Reachable.exists_owesNotice (r : Reachable s) (h : s.phase t = .waiting) :
    ∃ u, (s.phase u).owesNotice := by
  induction r with
  | initial => cases h
  | step r st ih =>
    rename_i s s'
    obtain ⟨u, m⟩ | ⟨u, rfl⟩ := st.move
    · have stays {v : Thread} (hne : v ≠ u) (hv : (s.phase v).owesNotice) : (s'.phase v).owesNotice := by
        rcases m.phase_of_ne hne with he | ⟨hw, -⟩
        · rw [he]; exact hv
        · rw [hw] at hv; cases hv
      by_cases before : s.phase t = .waiting
      -- Whoever owed the notice owes it still: giving it would have left nobody waiting.
      · obtain ⟨v, hv⟩ := ih before
        by_cases hvu : v = u
        · subst v
          exact ⟨u, (m.owesNotice hv).resolve_right fun nobody => nobody t h⟩
        · exact ⟨v, stays hvu hv⟩
      · -- The thread has just gone to wait.
        obtain rfl : t = u := by
          refine Classical.byContradiction fun hne => ?_
          rcases m.phase_of_ne hne with he | ⟨hw, -⟩
          · exact before (he ▸ h)
          · exact before hw
        cases m with
        | await hl _ hs =>
          obtain ⟨v, hne, hv⟩ := r.guarded.exists_owesNotice hl hs
          exact ⟨v, stays hne hv⟩
        | notify => exact absurd h (notified_phase_ne s t t _)
        | _ => simp [goto, note, release, State.finish] at h
    · exact ih h

theorem next_isSome_of_holds (c : Outcome α) (h : (s.phase t).role.holds = true) : (s.next t c).isSome := by
  unfold next
  split <;> first | rfl | (rename_i hp; rw [hp] at h; cases h)

/-- Nothing but the lock can hold up a thread in a call that does not wait to be notified. -/
theorem next_isSome_of_unlocked (c : Outcome α) (ho : s.owner = none) (hp : s.phase t ≠ .outside)
    (hw : s.phase t ≠ .waiting) : (s.next t c).isSome := by
  unfold next acquire
  split <;> rw [ho] at * <;> first | rfl | (split <;> rfl) | skip
  · exact absurd ‹_› hp
  · exact absurd ‹_› hw

theorem Guarded.owner_eq_none (g : Guarded s) (rest : ∀ t c, s.next t c = none) : s.owner = none := by
  cases ho : s.owner with
  | none => rfl
  | some t =>
    have able := next_isSome_of_holds .panicked ((g.owner t).1 ho)
    rw [rest] at able
    cases able

/-- Whoever waits and is not notified is kept waiting by another thread, which claims the slot or has released it
and must still notify all. So nobody is left waiting when all others are out of their calls, and when nobody can
go on any more, everyone is out. -/
theorem waiting_is_noticed (r : Reachable s) :
    (∀ t, s.phase t = .waiting → ∃ u, u ≠ t ∧ ((s.phase u).claims ∨ ∃ o, s.phase u = .notifying o)) ∧
    (∀ t, (∀ u, u ≠ t → s.phase u = .outside) → s.phase t ≠ .waiting) ∧
    ((∀ t c, s.next t c = none) → ∀ t, s.phase t = .outside) := by
  have noticed : ∀ t, s.phase t = .waiting →
      ∃ u, u ≠ t ∧ ((s.phase u).claims ∨ ∃ o, s.phase u = .notifying o) := by
    intro t ht
    obtain ⟨u, hu⟩ := r.exists_owesNotice ht
    refine ⟨u, ?_, Phase.owesNotice_iff.1 hu⟩
    rintro rfl
    rw [ht] at hu
    cases hu
  refine ⟨noticed, fun t out ht => ?_, fun rest t => ?_⟩
  · obtain ⟨u, hne, hu | ⟨o, hu⟩⟩ := noticed t ht
    · rw [out u hne] at hu; cases hu
    · rw [out u hne] at hu; cases hu
  · have unlocked := r.guarded.owner_eq_none rest
    have idle (u : Thread) (hw : s.phase u ≠ .waiting) : s.phase u = .outside := by
      refine Classical.byContradiction fun hp => ?_
      have able := next_isSome_of_unlocked .panicked unlocked hp hw
      rw [rest] at able
      cases able
    by_cases ht : s.phase t = .waiting
    · obtain ⟨u, -, hu⟩ := noticed t ht
      have out : s.phase u = .outside := by
        refine idle u fun hw => ?_
        rw [hw] at hu
        rcases hu with hu | ⟨o, hu⟩ <;> cases hu
      rw [out] at hu
      rcases hu with hu | ⟨o, hu⟩ <;> cases hu
    · exact idle t ht

/-- Thread 1 waits while thread 0 constructs; when the constructor has panicked and the slot is released, thread 0
must still notify it. -/
theorem waiting_is_noticed_after_panic :
    let s : State Nat := runUntil (· == .notifying .panicked) 0 .panicked callSteps
      (ask 1 (.value 1) (runUntil (· == .constructing) 0 .panicked callSteps
        (((State.initial "").goto 0 .entered).note (.called 0))))
    s.Reachable ∧ s.phase 1 = .waiting ∧ ∃ u, u ≠ 1 ∧ ((s.phase u).claims ∨ ∃ o, s.phase u = .notifying o) := by
  intro s
  have r0 := Reachable.runUntil (α := Nat) (· == .constructing) 0 .panicked callSteps
    (.step (.initial "") (.call 0 rfl))
  have r : s.Reachable := .runUntil _ 0 .panicked _ (reachable_runThread 1 (.value 1) (.step r0 (.call 1 rfl)))
  exact ⟨r, rfl, (waiting_is_noticed r).1 1 rfl⟩

end State

end IdentityClient.Slot
