import IdentityClient.Proofs.Refreshing.Due
import IdentityClient.Proofs.Refreshing.Run

/-!
# Those who wait share the outcome

A call that has taken over an outcome returns it (`Run.takesOver_of_answered`), and in a fair run one that is due
an outcome does not wait for ever (`Run.Fair.over`). So the calls that queue behind an exchange start none
themselves and return its failure, or its token if that is still of use when their turn comes
(`Run.waiting_calls_share`).
-/

namespace IdentityClient.Refreshing

namespace Run

variable {r : Run} {i j : Nat} {c h : CallId} {o : Outcome}

/-- Call `c` starts no exchange and returns nothing but `o`; if the run is fair, it returns. -/
def TakesOver (r : Run) (c : CallId) (o : Outcome) : Prop :=
  (∀ j, .started c ∉ (r.state j).history ∧ ∀ o', .returned c o' ∈ (r.state j).history → o' = o) ∧
    (r.Fair → ∃ j, .returned c o ∈ (r.state j).history)

/-- Call `c` has the lock and looks at the cache again. -/
def LooksAgain (r : Run) (c : CallId) (j : Nat) : Prop :=
  ∃ n, (r.state j).phase c = .rechecking n ∧ (r.state (j + 1)).phase c ≠ .rechecking n

theorem Fair.returns (fair : r.Fair) (h : (r.state i).phase c = .unlocking o ∨ (r.state i).phase c = .leaving o) :
    ∃ j, .returned c o ∈ (r.state j).history := by
  have move {s s' : State} {d : CallId} (h : s.phase c = .unlocking o ∨ s.phase c = .leaving o)
      (m : s.Move d s') : .returned c o ∈ s'.history ∨
        ((s'.phase c = .unlocking o ∨ s'.phase c = .leaving o) ∧
          ((s'.phase c).work < (s.phase c).work ∨ (d ≠ c ∧ (s'.phase c).work = (s.phase c).work))) := by
    by_cases hd : d = c
    · subst d
      rcases h with h | h
      · have h' := m.phase_of_unlocking h
        exact .inr ⟨.inr h', .inl (by rw [h, h']; exact Nat.one_pos)⟩
      · exact .inl (m.returned_of_leaving h)
    · rw [m.phase_of_ne (Ne.symm hd)]
      exact .inr ⟨h, .inr ⟨hd, rfl⟩⟩
  obtain ⟨j, -, hj⟩ : ∃ j, i ≤ j ∧ .returned c o ∈ (r.state j).history := by
    refine fair.eventually (P := fun s => s.phase c = .unlocking o ∨ s.phase c = .leaving o)
      (Q := fun s => .returned c o ∈ s.history) (fun s => (s.phase c).work) (fun _ => c)
      (fun s s' _ h st => ?_) (fun s _ h => ?_) (fun s s' _ h hn => ?_) h
    · obtain ⟨d, m⟩ | ⟨d, rfl⟩ := st.move
      · exact (move h m).imp_right fun ⟨h', hw⟩ => ⟨h', hw.imp_right fun ⟨_, he⟩ => ⟨he, rfl⟩⟩
      · exact .inr ⟨h, .inr ⟨rfl, rfl⟩⟩
    · rcases h with h | h <;> simp [State.next, h]
    · rcases move h (.of_next hn) with h' | ⟨-, hw | ⟨hc, -⟩⟩
      · exact .inl h'
      · exact .inr hw
      · exact absurd rfl hc
  exact ⟨j, hj⟩

theorem takesOver_of_answered (h : (r.state i).Answered c o) : r.TakesOver c o := by
  refine ⟨fun j => ?_, fun fair => ?_⟩
  · obtain ⟨e, he, ha⟩ := h
    have later : (r.state (max i j)).Answered c o := ⟨e, mem_history (Nat.le_max_left ..) he, ha⟩
    obtain ⟨started, returned, -⟩ := later.life (r.reachable _)
    have up {e : Event} : e ∈ (r.state j).history → e ∈ (r.state (max i j)).history :=
      mem_history (Nat.le_max_right ..)
    exact ⟨fun hs => started (up hs), fun o' hr => returned o' (up hr)⟩
  · obtain ⟨-, -, hp | hp | ⟨-, hr⟩⟩ := h.life (r.reachable i)
    · exact fair.returns (.inl hp)
    · exact fair.returns (.inr hp)
    · exact ⟨i, hr⟩

theorem due_or_over (due : State.Due o c (r.state i)) (hij : i ≤ j) :
    State.Due o c (r.state j) ∨ (r.state j).Over c o :=
  keep (P := fun s => State.Due o c s ∨ s.Over c o)
    (fun _ _ hr h st => h.elim (fun due => due.step hr st) fun past => .inr (past.step st)) hij (.inl due)

theorem Fair.over (fair : r.Fair) (due : State.Due o c (r.state i)) : ∃ j, i ≤ j ∧ (r.state j).Over c o := by
  refine fair.eventually (P := State.Due o c) (Q := fun s => s.Over c o) (fun s => s.distance c) State.charge
    (fun s s' hr due st => ?_) (fun s hr due => ?_) (fun s s' hr due hn => ?_) due
  · obtain ⟨d, m⟩ | ⟨d, rfl⟩ := st.move
    · obtain due' | past := due.move hr m
      · exact .inr ⟨due', (due.distance_move due' hr.orderly m).imp_right (·.2)⟩
      · exact .inl past
    · exact (due.elapse d).symm.imp_right fun due' => ⟨due', .inr ⟨rfl, rfl⟩⟩
  · obtain ⟨x, hx, -⟩ := hr.orderly.owner_of_mem due.mem_line
    rw [State.charge_of_owner hx]
    exact State.next_isSome_of_work hx (due.work_pos hr.orderly hx)
  · have m := State.Move.of_next hn
    obtain ⟨x, hx, -⟩ := hr.orderly.owner_of_mem due.mem_line
    rw [State.charge_of_owner hx] at m
    obtain due' | past := due.move hr m
    · exact .inr ((due.distance_move due' hr.orderly m).resolve_right fun h => h.1 hx)
    · exact .inl past

/-- A call that is due a token and looks at the cache while the token outlives the margin takes it. -/
theorem answered_of_looksAgain {t : AccessToken} (due : State.Due (.token t) c (r.state j))
    (looks : r.LooksAgain c j) : (r.state (j + 1)).Answered c (.token t) := by
  obtain ⟨n, hp, hne⟩ := looks
  have fresh : (r.state j).fresh = some t := by
    cases due with
    | ending _ hq =>
      obtain ⟨-, m, hm⟩ := (r.reachable j).orderly.queued_of_mem hq
      rw [hp] at hm
      cases hm
    | bound hl => exact hl
  obtain st | same := r.next j
  · obtain ⟨d, m⟩ | ⟨d, he⟩ := st.move
    · by_cases hd : d = c
      · subst d
        obtain ⟨t', hf, hit⟩ | ⟨hf, -⟩ := m.of_rechecking hp
        · obtain rfl : t' = t := Option.some.inj (hf.symm.trans fresh)
          exact ⟨_, hit, rfl, rfl⟩
        · cases hf.symm.trans fresh
      · exact absurd ((m.phase_of_ne (Ne.symm hd)).trans hp) hne
    · exact absurd (by rw [he]; exact hp) hne
  · exact absurd (by rw [same]; exact hp) hne

/-- A call that queues and is not given up has the lock before it does anything else. -/
theorem waiting_of_not_looksAgain {n : Nat} (kept : ∀ j, .dropped c ∉ (r.state j).history)
    (never : ∀ j, i ≤ j → ¬ r.LooksAgain c j) (hp : (r.state i).phase c = .queued n) (hij : i ≤ j) :
    (r.state j).phase c = .queued n ∨ (r.state j).phase c = .rechecking n := by
  induction hij with
  | refl => exact .inl hp
  | @step j hij ih =>
    rcases ih with hq | hr
    · obtain st | same := r.next j
      · obtain ⟨d, m⟩ | ⟨d, he⟩ := st.move
        · by_cases hd : d = c
          · subst d
            exact .inr ((m.phase_of_queued hq).resolve_right (kept _))
          · exact .inl ((m.phase_of_ne (Ne.symm hd)).trans hq)
        · exact .inl (by rw [he]; exact hq)
      · exact .inl (by rw [same]; exact hq)
    · by_cases hr' : (r.state (j + 1)).phase c = .rechecking n
      · exact .inr hr'
      · exact absurd ⟨n, hr, hr'⟩ (never j hij)

/-- When an exchange ends while a call queues behind it that is not given up, the call takes over its failure;
or its token, if that outlives the margin when the call has the lock and looks. -/
theorem waiting_calls_share (r : Run) {i : Nat} {h c : CallId} {o : Outcome}
    (ended : ((r.state i).phase h).ending? = some o) (queued : c ∈ (r.state i).queue)
    (kept : ∀ j, .dropped c ∉ (r.state j).history) :
    (∀ e, o = .failed e → r.TakesOver c (.failed (.refreshFailed e.message))) ∧
    ∀ t, o = .token t →
      (∀ j, i ≤ j → r.LooksAgain c j → t.expiresWithin (r.state j).now (r.state j).margin = false →
        r.TakesOver c (.token t)) ∧
      (r.Fair → ∃ j, i ≤ j ∧
        (r.LooksAgain c j ∨ t.expiresWithin (r.state j).now (r.state j).margin = true)) := by
  have due : State.Due o c (r.state i) := .ending ended queued
  refine ⟨?_, ?_⟩
  · rintro e rfl
    have taken {j : Nat} (h : (r.state j).Over c (.failed e)) : (r.state j).Answered c (passedOn (.failed e)) := by
      rcases h with h | h | h
      · exact h
      · cases h
      · exact absurd h (kept j)
    refine ⟨fun j => ?_, fun fair => ?_⟩
    · obtain due' | h := due_or_over due (Nat.le_max_left i j)
      · have up {e : Event} (he : e ∈ (r.state j).history) (hc : e.call = c) : e.isEarly = true :=
          due'.isEarly (r.reachable _) (mem_history (Nat.le_max_right i j) he) hc
        exact ⟨fun hs => absurd (up hs rfl) nofun, fun o' hr => absurd (up hr rfl) nofun⟩
      · exact (takesOver_of_answered (taken h)).1 j
    · obtain ⟨j, -, h⟩ := fair.over due
      exact (takesOver_of_answered (taken h)).2 fair
  · rintro t rfl
    refine ⟨fun j hij looks valid => ?_, fun fair => ?_⟩
    · obtain due' | answered | stale | dropped := due_or_over due hij
      · exact takesOver_of_answered (answered_of_looksAgain due' looks)
      · exact takesOver_of_answered answered
      · exact absurd (valid.symm.trans stale) nofun
      · exact absurd dropped (kept j)
    · -- A call that never looks stays in the queue, and its waiting would not end there.
      refine Classical.byContradiction fun none => ?_
      obtain ⟨-, n, hn⟩ := (r.reachable i).orderly.queued_of_mem queued
      obtain ⟨j, hij, answered | stale | dropped⟩ := fair.over due
      · have waiting := waiting_of_not_looksAgain kept (fun j hij looks => none ⟨j, hij, .inl looks⟩) hn hij
        obtain ⟨-, -, hp⟩ := answered.life (r.reachable j)
        rcases waiting with hw | hw <;> rw [hw] at hp <;> simp at hp
      · exact none ⟨j, hij, .inr stale⟩
      · exact kept j dropped

/-- Call 1 queues while call 0 runs an exchange that fails, and returns that failure. -/
theorem waiting_call_shares_failure :
    let acts := .call 0 :: Act.steps 0 6 ++ .call 1 :: Act.steps 1 3 ++
      .finish 0 (.failed (.other "down")) :: Act.steps 0 5 ++ Act.steps 1 6
    let r := Run.ofActs (.initial ⟨0⟩ ⟨0⟩) acts
    ((r.state 12).phase 0).ending? = some (.failed (.other "down")) ∧ 1 ∈ (r.state 12).queue ∧
      (∀ j, .dropped 1 ∉ (r.state j).history) ∧
      ∃ j, .returned 1 (.failed (.refreshFailed "down")) ∈ (r.state j).history := by
  intro acts r
  have kept : ∀ j, .dropped 1 ∉ (r.state j).history := fun j hj =>
    absurd (mem_history_ofActs _ acts hj) (by decide)
  have fair : r.Fair := fair_ofActs _ acts fun c => by
    match c with
    | 0 | 1 | _ + 2 => rfl
  have shares := (waiting_calls_share r (i := 12) (h := 0) (c := 1) rfl (by decide) kept).1 _ rfl
  exact ⟨rfl, by decide, kept, shares.2 fair⟩

end Run

end IdentityClient.Refreshing
