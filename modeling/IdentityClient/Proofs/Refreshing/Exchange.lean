import IdentityClient.Proofs.Refreshing.Life
import IdentityClient.Proofs.Refreshing.Run

/-!
# One exchange at a time

However calls come and go, the exchanges that they start never overlap, none starts a second one, and none is
started while a token in the cache is fresh (`exchanges_coalesce`).
-/

namespace IdentityClient.Refreshing.State

variable {s s' : State} {c d : CallId}

/-- An exchange that call `c` has started goes on. -/
def InFlight (s : State) (c : CallId) : Prop :=
  .started c ∈ s.history ∧ (∀ o, .ended c o ∉ s.history) ∧ .dropped c ∉ s.history

theorem Reachable.inFlight_iff (r : Reachable s) : s.InFlight c ↔ s.phase c = .exchanging := by
  have h := (r.life c).eq_exchanging_iff
  simp only [mem_own, Event.call, and_true] at h
  exact h.symm

theorem Reachable.count_started (r : Reachable s) (c : CallId) : s.history.count (.started c) ≤ 1 := by
  have h := (r.life c).count_started
  rwa [own, List.count_filter (by simp [Event.call])] at h

theorem Step.phase_of_started (st : Step s s') (h : .started c ∉ s.history)
    (h' : .started c ∈ s'.history) : s.phase c = .starting := by
  obtain ⟨d, m⟩ | ⟨d, rfl⟩ := st.move
  · cases m with
    | start hp =>
      rcases List.mem_cons.1 h' with he | he
      · cases he; exact hp
      · exact absurd he h
    | quit =>
      obtain ⟨_, _, e⟩ := leave_eq s d
      simp [goto, note, e, h] at h'
    | _ => simp [goto, note, write, release_eq, h] at h'
  · exact absurd h' h

/-- At every moment one exchange at most is in flight, no call starts two, and one is started only when the
cache holds no token or one that expires within the margin. -/
theorem exchanges_coalesce (r : Reachable s) :
    (∀ c d, s.InFlight c → s.InFlight d → c = d) ∧
    (∀ c, s.history.count (.started c) ≤ 1) ∧
    ∀ c s', Step s s' → .started c ∉ s.history → .started c ∈ s'.history →
      ∀ t, s.cached = some t → t.expiresWithin s.now s.margin = true := by
  refine ⟨fun c d hc hd => ?_, r.count_started, fun c s' st h h' => ?_⟩
  · rw [r.inFlight_iff] at hc hd
    exact r.orderly.eq_of_holding (by rw [hc]; rfl) (by rw [hd]; rfl)
  · have hp := st.phase_of_started h h'
    exact fresh_eq_none_iff.1 (r.fresh_of_isDry (c := c) (by rw [hp]; rfl))

/-- Call 1 queues behind the exchange of call 0, which is the only one. -/
theorem exchanges_coalesce_while_queued :
    let s := (initial ⟨0⟩ ⟨0⟩).play (.call 0 :: Act.steps 0 6 ++ .call 1 :: Act.steps 1 3)
    s.Reachable ∧ s.InFlight 0 ∧ 1 ∈ s.queue ∧ ∀ c, s.InFlight c → c = 0 := by
  intro s
  have r : s.Reachable := .play (.initial ⟨0⟩ ⟨0⟩) _
  have flight : s.InFlight 0 := r.inFlight_iff.2 rfl
  exact ⟨r, flight, by decide, fun c h => (exchanges_coalesce r).1 c 0 h flight⟩

end IdentityClient.Refreshing.State
