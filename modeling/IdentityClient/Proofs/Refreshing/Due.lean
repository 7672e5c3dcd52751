import IdentityClient.Proofs.Refreshing.Counter
import IdentityClient.Proofs.Refreshing.Queue

/-!
# What those who wait are due

When an exchange ends, the calls that queue for the lock are due its outcome (`State.Due`): the token, as long
as it outlives the margin, or the failure, with a text that says so (`passedOn`). Each stays so until it has
taken the outcome over, or the token is stale, or it is given up (`Due.step`), and each move of the owner of the
lock brings that closer (`Due.distance_move`).
-/

namespace IdentityClient.Refreshing

/-- What a call that has waited for another's exchange makes of its outcome. -/
def passedOn : Outcome → Outcome
  | .token t => .token t
  | .failed e => .failed (.refreshFailed e.message)

/-- A call in this phase takes over the outcome `o` when it has the lock and the counter stands at `n`. -/
def Phase.Bound (n : Nat) (o : Outcome) : Phase → Prop
  | .queued m | .rechecking m => m < n
  | .comparing m => m < n ∧ ∃ e, o = .failed e
  | .consulting => ∃ e, o = .failed e
  | _ => False

section
variable {p : Phase} {n : Nat} {o : Outcome}

theorem Phase.Bound.work_pos (h : p.Bound n o) : 0 < p.work := by
  cases p <;> first | exact Nat.succ_pos _ | cases h

theorem Phase.Bound.stand_ne_apart (h : p.Bound n o) : p.stand ≠ .apart := by
  cases p <;> first | (cases h; done) | exact nofun

theorem Phase.Bound.ending?_eq_none (h : p.Bound n o) : p.ending? = none := by
  cases p <;> first | rfl | cases h

theorem Phase.work_pos_of_ending? (h : p.ending? = some o) : 0 < p.work := by
  cases p <;> first | exact Nat.succ_pos _ | cases h

end

namespace State

variable {s s' : State} {c d h : CallId} {o : Outcome}

/-- What an exchange that has ended with `o` has left is there and of use. -/
def Left (s : State) : Outcome → Prop
  | .token t => s.fresh = some t
  | .failed e => s.fresh = none ∧ s.lastFailure = some e.message

/-- Call `c` waits, and is to take over the outcome `o`. -/
inductive Due (o : Outcome) (c : CallId) (s : State) : Prop
  /-- The exchange of call `h` has ended and is not counted. -/
  | ending {h : CallId} : (s.phase h).ending? = some o → c ∈ s.queue → Due o c s
  /-- All who are in line up to `c` find what the exchange has left, or give the lock back. -/
  | bound : s.Left o → c ∈ s.line → (s.phase c).Bound s.attempts o →
      (∀ d ∈ s.ahead c, (s.phase d).Bound s.attempts o ∨ ∃ o', s.phase d = .unlocking o') → Due o c s

/-- Call `c` has taken the outcome `o` over. -/
def Answered (s : State) (c : CallId) (o : Outcome) : Prop :=
  ∃ e ∈ s.history, e.call = c ∧ e.answer = some o

/-- The outcome is a token that is about to expire. -/
def Stale (s : State) : Outcome → Prop
  | .token t => t.expiresWithin s.now s.margin = true
  | .failed _ => False

/-- Call `c` does not wait for the outcome `o` any more. -/
def Over (s : State) (c : CallId) (o : Outcome) : Prop :=
  s.Answered c (passedOn o) ∨ s.Stale o ∨ .dropped c ∈ s.history

theorem Left.congr (hl : s.Left o) (hc : s'.cached = s.cached) (hf : s'.lastFailure = s.lastFailure)
    (hn : s'.now = s.now) (hm : s'.margin = s.margin) : s'.Left o := by
  have fresh : s'.fresh = s.fresh := fresh_congr hc hn hm
  cases o with
  | token t => exact fresh.trans hl
  | failed e => exact ⟨fresh.trans hl.1, hf.trans hl.2⟩

theorem Left.elapse (hl : s.Left o) (d : Duration) : (s.elapse d).Left o ∨ (s.elapse d).Stale o := by
  cases o with
  | token t =>
    cases he : t.expiresWithin (s.elapse d).now (s.elapse d).margin with
    | true => exact .inr he
    | false => exact .inl (fresh_eq_some_iff.2 ⟨(fresh_eq_some_iff.1 hl).1, he⟩)
  | failed e => exact .inl ⟨fresh_elapse d hl.1, hl.2⟩

/-- A call that is bound moves on, or takes over what is left, or is given up. -/
theorem Left.bound_move (hl : s.Left o) (hb : (s.phase d).Bound s.attempts o) (m : Move s d s') :
    (s'.phase d).Bound s.attempts o ∨
      ((∃ o', s'.phase d = .unlocking o') ∧ s'.Answered d (passedOn o)) ∨
      (s'.phase d = .done ∧ .dropped d ∈ s'.history) := by
  cases m with
  | wake hp =>
    rw [hp] at hb
    exact .inl (by rw [goto_phase_self]; exact hb)
  | @lateHit _ t hp hf =>
    refine .inr (.inl ⟨⟨_, goto_phase_self ..⟩, .hit d t, List.mem_cons_self .., rfl, ?_⟩)
    cases o with
    | token t' => rw [Option.some.inj (hl.symm.trans hf)]; rfl
    | failed e => cases hl.1.symm.trans hf
  | lateMiss hp hf =>
    rw [hp] at hb
    cases o with
    | token t => cases hf.symm.trans hl
    | failed e => exact .inl (by rw [goto_phase_self]; exact ⟨hb, e, rfl⟩)
  | changed hp =>
    rw [hp] at hb
    exact .inl (by rw [goto_phase_self]; exact hb.2)
  | @relay reason hp hf =>
    rw [hp] at hb
    obtain ⟨e, rfl⟩ := hb
    refine .inr (.inl ⟨⟨_, goto_phase_self ..⟩, .relayed d reason, List.mem_cons_self .., rfl, ?_⟩)
    rw [Option.some.inj (hf.symm.trans hl.2)]; rfl
  | unchanged hp hn =>
    rw [hp] at hb
    exact absurd hb.1 (by omega)
  | retry hp hf =>
    rw [hp] at hb
    obtain ⟨e, rfl⟩ := hb
    cases hf.symm.trans hl.2
  | quit => exact .inr (.inr ⟨goto_phase_self .., List.mem_cons_self ..⟩)
  | _ => simp_all [Phase.Bound]

/-- Once the exchange is counted, those who wait are bound to take over what it has left. -/
theorem Reachable.due_of_record (r : Reachable s) (hp : s.phase h = .written o) (hq : c ∈ s.queue) :
    let s' := ({ s with attempts := s.attempts + 1 }.goto h (.unlocking o)).note (.recorded h o)
    Due o c s' ∨ s'.Over c o := by
  intro s'
  have left : s.Left o ∨ s.Stale o := by
    cases o with
    | token t =>
      have hc := r.cached_of_stored (c := h) (t := t) (by rw [hp]; rfl)
      cases he : t.expiresWithin s.now s.margin with
      | true => exact .inr he
      | false => exact .inl (fresh_eq_some_iff.2 ⟨hc, he⟩)
    | failed e =>
      have hd := r.fresh_of_isDry (c := h) (by rw [hp]; rfl)
      exact .inl ⟨hd, r.lastFailure_of_failure? (c := h) (by rw [hp]; rfl)⟩
  have waiting {d : CallId} (hd : d ∈ s.queue) : (s'.phase d).Bound s'.attempts o := by
    obtain ⟨-, n, hn⟩ := r.orderly.queued_of_mem hd
    have hne : d ≠ h := by rintro rfl; rw [hn] at hp; cases hp
    have hph : s'.phase d = .queued n := (goto_phase_of_ne _ _ hne).trans hn
    have grown := r.attempts_eq (c := d) (n := n) (by rw [hn]; rfl)
    rw [hph]
    exact Nat.lt_succ_of_le (grown ▸ Nat.le_add_right ..)
  obtain hl | hs := left
  · refine .inl (.bound (hl.congr rfl rfl rfl rfl) (List.mem_append_right _ hq) (waiting hq) fun d hd => ?_)
    have hl : s'.line = h :: s.queue := line_of_owner (r.orderly.holder (by rw [hp]; rfl))
    rcases List.mem_cons.1 (hl ▸ mem_line_of_ahead hd) with rfl | hd
    · exact .inr ⟨o, goto_phase_self ..⟩
    · exact .inl (waiting hd)
  · exact .inr (.inr (.inl (by cases o <;> exact hs)))

namespace Due

theorem mem_line (due : Due o c s) : c ∈ s.line := by
  cases due with
  | ending _ hq => exact List.mem_append_right _ hq
  | bound _ hc => exact hc

theorem ending_move (r : Reachable s) (he : (s.phase h).ending? = some o) (hq : c ∈ s.queue)
    (m : Move s d s') : Due o c s' ∨ s'.Over c o := by
  have ho : s.owner = some h := r.orderly.holder (Phase.stand_of_ending? he)
  have hc := (r.orderly.queued_of_mem hq).1
  by_cases hd : d = h
  · subst d
    cases m with
    | store hp | warn hp | clear hp | tell hp | keep hp =>
      rw [hp] at he
      cases he
      exact .inl (.ending (h := h) (by simp [goto, write, Phase.ending?]) hq)
    | record hp =>
      rw [hp] at he
      cases he
      exact r.due_of_record hp hq
    | quit hp => revert hp he; cases s.phase h <;> simp [Phase.canQuit, Phase.ending?]
    | _ => simp_all [Phase.ending?]
  · by_cases hdc : d = c
    · subst d
      have hm := r.orderly.quit_of_mem (List.mem_append_right _ hq) hc m
      exact .inr (.inr (.inr (by rw [hm]; exact List.mem_cons_self ..)))
    · have hc' := r.orderly.mem_move (List.mem_append_right _ hq) hdc m
      rw [line_of_owner (r.orderly.owner_move ho hd m)] at hc'
      refine .inl (.ending (h := h) ?_ ((List.mem_cons.1 hc').resolve_left fun e => hc (e ▸ ho)))
      rw [m.phase_of_ne (Ne.symm hd)]
      exact he

theorem bound_move (r : Orderly s) (hl : s.Left o) (hc : c ∈ s.line) (hb : (s.phase c).Bound s.attempts o)
    (ha : ∀ d ∈ s.ahead c, (s.phase d).Bound s.attempts o ∨ ∃ o', s.phase d = .unlocking o')
    (m : Move s d s') : Due o c s' ∨ s'.Over c o := by
  have quiet : (s.phase d).ending? = none := by
    cases he : (s.phase d).ending? with
    | none => rfl
    | some o' =>
      obtain ⟨x, hx, hxc⟩ := r.owner_of_mem hc
      obtain rfl := Option.some.inj ((r.holder (Phase.stand_of_ending? he)).symm.trans hx)
      rcases hxc with rfl | hxa
      · exact he.symm.trans hb.ending?_eq_none
      · rcases ha d hxa with hb' | ⟨o', hu⟩
        · exact he.symm.trans hb'.ending?_eq_none
        · rw [hu] at he; cases he
  have same := m.sameRecord quiet
  have left : s'.Left o := hl.congr same.cached same.lastFailure m.now m.margin
  have inLine {x : CallId} (hx : x ∈ s'.line) : (s'.phase x).stand ≠ .apart := ((r.move m).mem x).1 hx
  -- A call before `c` that leaves this state of affairs leaves the line.
  have stays {x : CallId} (hx : x ∈ s'.line)
      (h : (s.phase x).Bound s.attempts o ∨ ∃ o', s.phase x = .unlocking o') :
      (s'.phase x).Bound s'.attempts o ∨ ∃ o', s'.phase x = .unlocking o' := by
    rw [same.attempts]
    by_cases hxd : x = d
    · subst x
      rcases h with h | ⟨o', hu⟩
      · rcases hl.bound_move h m with h | ⟨h, -⟩ | ⟨h, -⟩
        · exact .inl h
        · exact .inr h
        · exact absurd (by rw [h]; rfl) (inLine hx)
      · exact absurd (by rw [m.phase_of_unlocking hu]; rfl) (inLine hx)
    · rw [m.phase_of_ne hxd]
      exact h
  have due (hc' : c ∈ s'.line) (hb' : (s'.phase c).Bound s.attempts o) : Due o c s' :=
    .bound left hc' (same.attempts ▸ hb') fun x hx =>
      stays (mem_line_of_ahead hx) (ha x (r.ahead_subset hc hc' m hx))
  by_cases hd : d = c
  · subst d
    rcases hl.bound_move hb m with hb' | ⟨-, answered⟩ | ⟨-, dropped⟩
    · exact .inl (due (((r.move m).mem c).2 hb'.stand_ne_apart) hb')
    · exact .inr (.inl answered)
    · exact .inr (.inr (.inr dropped))
  · refine .inl (due (r.mem_move hc hd m) ?_)
    rw [m.phase_of_ne (Ne.symm hd)]
    exact hb

/-- A call stays due an outcome until it has taken it over, or the token is stale, or the call is given up. -/
theorem move (due : Due o c s) (r : Reachable s) (m : Move s d s') : Due o c s' ∨ s'.Over c o := by
  cases due with
  | ending he hq => exact ending_move r he hq m
  | bound hl hc hb ha => exact bound_move r.orderly hl hc hb ha m

theorem elapse (due : Due o c s) (d : Duration) : Due o c (s.elapse d) ∨ (s.elapse d).Over c o := by
  cases due with
  | ending he hq => exact .inl (.ending he hq)
  | bound hl hc hb ha =>
    obtain hl | hs := hl.elapse d
    · exact .inl (.bound hl hc hb ha)
    · exact .inr (.inr (.inl hs))

theorem work_pos (due : Due o c s) (r : Orderly s) (ho : s.owner = some d) : 0 < (s.phase d).work := by
  cases due with
  | @ending h he _ =>
    obtain rfl := Option.some.inj ((r.holder (Phase.stand_of_ending? he)).symm.trans ho)
    exact Phase.work_pos_of_ending? he
  | bound _ hc hb ha =>
    obtain ⟨x, hx, hxc⟩ := r.owner_of_mem hc
    obtain rfl := Option.some.inj (hx.symm.trans ho)
    rcases hxc with rfl | hxa
    · exact hb.work_pos
    · rcases ha x hxa with hb' | ⟨o', hu⟩
      · exact hb'.work_pos
      · rw [hu]; exact Nat.one_pos

/-- Each move of the owner brings the answer of a call that is due one closer, and no others put it off. -/
theorem distance_move (due : Due o c s) (due' : Due o c s') (r : Orderly s) (m : Move s d s') :
    s'.distance c < s.distance c ∨
      (s.owner ≠ some d ∧ s'.distance c = s.distance c ∧ s'.charge = s.charge) := by
  by_cases ho : s.owner = some d
  · exact .inl (r.distance_lt due.mem_line due'.mem_line ho (due.work_pos r ho) m)
  by_cases hd : d = c
  · subst d
    have gone : (s'.phase c).stand = .apart := by
      rw [r.quit_of_mem due.mem_line ho m]
      exact congrArg Phase.stand (goto_phase_self ..)
    exact absurd gone (((r.move m).mem c).1 due'.mem_line)
  · exact (r.distance_move due.mem_line hd ho m).imp_right fun h => ⟨ho, h⟩

theorem step (due : Due o c s) (r : Reachable s) (st : Step s s') : Due o c s' ∨ s'.Over c o := by
  obtain ⟨d, m⟩ | ⟨d, rfl⟩ := st.move
  · exact due.move r m
  · exact due.elapse d

theorem isEarly (due : Due o c s) (r : Reachable s) {e : Event} (he : e ∈ s.history) (hc : e.call = c) :
    e.isEarly = true := by
  have life := r.life c
  have mem : e ∈ own c s.history := mem_own.2 ⟨he, hc⟩
  cases due with
  | ending _ hq =>
    obtain ⟨-, n, hn⟩ := r.orderly.queued_of_mem hq
    rw [hn] at life
    cases life with
    | queued h => exact h.isEarly mem
  | bound _ _ hb =>
    generalize own c s.history = l at life mem
    generalize s.phase c = p at life hb
    cases life with
    | queued h | rechecking h | comparing h | consulting h => exact h.isEarly mem
    | _ => cases hb

end Due

theorem Over.step (h : s.Over c o) (st : Step s s') : s'.Over c o := by
  rcases h with ⟨e, he, h⟩ | hs | hd
  · exact .inl ⟨e, st.mem_history he, h⟩
  · cases o with
    | token t => exact .inr (.inl (st.expiresWithin hs))
    | failed e => cases hs
  · exact .inr (.inr (st.mem_history hd))

theorem Answered.life (h : s.Answered c o) (r : Reachable s) :
    .started c ∉ s.history ∧ (∀ o', .returned c o' ∈ s.history → o' = o) ∧
      (s.phase c = .unlocking o ∨ s.phase c = .leaving o ∨
        (s.phase c = .done ∧ .returned c o ∈ s.history)) := by
  obtain ⟨e, he, hc, ha⟩ := h
  have life := (r.life c).of_answer (mem_own.2 ⟨he, hc⟩) ha
  simpa only [mem_own, Event.call, and_true] using life

end State

end IdentityClient.Refreshing
