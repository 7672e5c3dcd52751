import IdentityClient.Proofs.Refreshing.Counter
import IdentityClient.Proofs.Refreshing.Run

/-!
# Whose failure a call returns

A call that fails has run an exchange that failed so, or has taken over the failure of the latest exchange,
and that one was counted after the call had read the counter (`failed_call_cause`). No failure is handed on
that was on record before the call looked, and none that a later exchange has overtaken.
-/

namespace IdentityClient.Refreshing

/-- The latest exchange to be counted has failed with `e`, and it was counted after call `c` had read the
counter. -/
def FailedSince (c : CallId) (e : TokenError) (h : List Event) : Prop :=
  ∃ mid d older n, h = mid ++ .recorded d (.failed e) :: older ∧ recordings mid = [] ∧ .counted c n ∈ older

/-- The latest exchange is the latest since `c` read the counter, if there is one since. -/
theorem failedSince_of_head? {c : CallId} {e : TokenError} {n : Nat} {h : List Event}
    (hc : .counted c n ∈ h) (hne : recordings (since c h) ≠ [])
    (hh : (recordings h).head? = some (.failed e)) : FailedSince c e h := by
  have split : h = since c h ++ h.dropWhile fun e => !e.isCount c := (List.takeWhile_append_dropWhile ..).symm
  obtain ⟨o, os, ho⟩ := List.exists_cons_of_ne_nil hne
  obtain rfl : o = .failed e := by
    rw [split, recordings, List.filterMap_append, ← recordings, ho] at hh
    simpa using hh
  obtain ⟨mid, x, rest, hs, hmid, hx, -⟩ := List.filterMap_eq_cons_iff.1 ho
  obtain ⟨d, rfl⟩ : ∃ d, x = .recorded d (.failed e) := by
    cases x with
    | recorded d o => cases hx; exact ⟨d, rfl⟩
    | _ => cases hx
  refine ⟨mid, d, rest ++ h.dropWhile fun e => !e.isCount c, n, ?_, List.filterMap_eq_nil_iff.2 hmid, ?_⟩
  · rw [← List.cons_append, ← List.append_assoc, ← hs]
    exact split
  · rw [split, List.mem_append] at hc
    refine List.mem_append_right _ (hc.resolve_left fun hm => ?_)
    have := List.all_eq_true.1 List.all_takeWhile _ hm
    simp [Event.isCount] at this

namespace State

variable {s s' : State} {c : CallId}

theorem Reachable.counted_of_consulting (r : Reachable s) (h : s.phase c = .consulting) :
    ∃ n, .counted c n ∈ s.history := by
  have life := r.life c
  rw [h] at life
  generalize hl : own c s.history = l at life
  cases life with
  | consulting hc => exact ⟨_, (mem_own.1 (hl ▸ hc.mem)).1⟩

theorem Reachable.failedSince (r : Reachable s) {reason : String} (hp : s.phase c = .consulting)
    (hf : s.lastFailure = some reason) : ∃ e, e.message = reason ∧ FailedSince c e s.history := by
  obtain ⟨n, hn⟩ := r.counted_of_consulting hp
  have settled : ∀ d, (s.phase d).failure? = none := fun d => by
    cases hd : (s.phase d).failure? with
    | none => rfl
    | some x =>
      obtain rfl := r.orderly.eq_of_holding (c := c) (by rw [hp]; rfl) (Phase.stand_of_failure? hd)
      rw [hp] at hd
      cases hd
  have last := (r.lastFailure_eq settled).symm.trans hf
  cases hh : (recordings s.history).head? with
  | none => rw [hh] at last; cases last
  | some o =>
    rw [hh] at last
    cases o with
    | token t => cases last
    | failed e => exact ⟨e, Option.some.inj last, failedSince_of_head? hn (r.recordings_since_ne_nil hp) hh⟩

/-- The same, of every failure that has ever been taken over. -/
theorem Reachable.failedSince_of_relayed (r : Reachable s) {reason : String} {newer older : List Event}
    (h : s.history = newer ++ .relayed c reason :: older) : ∃ e, e.message = reason ∧ FailedSince c e older := by
  induction r generalizing newer with
  | initial => simp [State.initial] at h
  | primed => simp [State.primed, record, State.initial] at h
  | step r st ih =>
    rename_i s s'
    obtain ⟨d, m⟩ | ⟨d, rfl⟩ := st.move
    · obtain hh | ⟨e, -, hh⟩ := m.history
      · exact ih (hh ▸ h)
      · rw [hh] at h
        cases newer with
        -- An event from before this step.
        | cons _ newer => exact ih (List.cons.inj h).2
        | nil =>
          obtain ⟨rfl, rfl⟩ := List.cons.inj h
          cases m with
          | relay hp hf => cases (List.cons.inj hh).1; exact r.failedSince hp hf
          | quit => cases (List.cons.inj hh).1
          | unlock => rw [release_eq] at hh; simp [goto] at hh
          | _ => simp [goto, note, write] at hh
    · exact ih h

/-- A call that fails returns the failure of its own exchange as it came, or has started none and says of the
latest exchange, counted after the call had read the counter, that it has failed and why. -/
theorem failed_call_cause {f : TokenError} (r : Reachable s) (h : .returned c (.failed f) ∈ s.history) :
    (.started c ∈ s.history ∧ .ended c (.failed f) ∈ s.history) ∨
      (.started c ∉ s.history ∧ ∃ e newer older, f = .refreshFailed e.message ∧
        s.history = newer ++ .relayed c e.message :: older ∧ FailedSince c e older) := by
  have mem {e : Event} (he : e.call = c) : e ∈ own c s.history ↔ e ∈ s.history := by simp [mem_own, he]
  obtain ⟨-, l, hs, hl⟩ := (r.life c).of_returned ((mem rfl).2 h)
  obtain ⟨h1, h2⟩ | ⟨h1, reason, h2, rfl⟩ := hs.failed
  · have up {e : Event} (he : e.call = c) (hm : e ∈ l) : e ∈ s.history :=
      (mem he).1 (hl ▸ List.mem_cons_of_mem _ hm)
    exact .inl ⟨up rfl h1, up rfl h2⟩
  · obtain ⟨newer, older, hr⟩ := List.append_of_mem ((mem rfl).1 (hl ▸ List.mem_cons_of_mem _ h2))
    obtain ⟨e, rfl, he⟩ := r.failedSince_of_relayed hr
    refine .inr ⟨fun hm => ?_, e, newer, older, rfl, hr, he⟩
    rw [← mem rfl, hl] at hm
    exact h1 (by simpa using hm)

/-- Call 1 has waited for the exchange of call 0, which has failed. -/
theorem failed_call_cause_of_waiting :
    let s := (initial ⟨0⟩ ⟨0⟩).play (.call 0 :: Act.steps 0 6 ++ .call 1 :: Act.steps 1 3 ++
      .finish 0 (.failed (.other "down")) :: Act.steps 0 5 ++ Act.steps 1 6)
    s.Reachable ∧ .returned 1 (.failed (.refreshFailed "down")) ∈ s.history ∧
      ∃ e newer older, TokenError.refreshFailed "down" = .refreshFailed e.message ∧
        s.history = newer ++ .relayed 1 e.message :: older ∧ FailedSince 1 e older := by
  intro s
  have r : s.Reachable := .play (.initial ⟨0⟩ ⟨0⟩) _
  have h : .returned 1 (.failed (.refreshFailed "down")) ∈ s.history := by decide
  exact ⟨r, h, ((failed_call_cause r h).resolve_left fun own => absurd own.1 (by decide)).2⟩

end State

end IdentityClient.Refreshing
