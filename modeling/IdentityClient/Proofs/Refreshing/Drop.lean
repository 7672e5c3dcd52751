import IdentityClient.Proofs.Refreshing.Failure
import IdentityClient.Proofs.Refreshing.Queue
import IdentityClient.Proofs.Refreshing.Scheduled

/-!
# Giving calls up

A call that is given up while it waits, for the lock or for its exchange, leaves no trace but that it comes out
of the line (`drop_eq`). If it had the lock, the next in line is handed it and tries for itself: unless an exchange has
ended since it read the counter or it finds a fresh token, it starts an exchange (`HandedOn`).
-/

namespace IdentityClient.Refreshing

/-- A call in this phase is to run an exchange if the counter stands at `n` and no token is fresh. -/
inductive Phase.Tries (n : Nat) : Phase → Prop
  | queued : Tries n (.queued n)
  | rechecking : Tries n (.rechecking n)
  | comparing : Tries n (.comparing n)
  | starting : Tries n .starting

/-- How many steps a call takes that has been handed the lock until it starts its exchange. -/
def Phase.toStart : Phase → Nat
  | .queued _ => 4
  | .rechecking _ => 3
  | .comparing _ => 2
  | .starting => 1
  | _ => 0

namespace State

variable {s s' : State} {c d : CallId} {n : Nat} {o : Outcome}

/-- Call `d` has been handed the lock, and no exchange has been counted since it read the counter. -/
structure HandedOn (d : CallId) (n : Nat) (s : State) : Prop where
  owner : s.owner = some d
  counter : s.attempts = n
  phase : (s.phase d).Tries n

namespace HandedOn

theorem sameRecord (h : HandedOn d n s) (ord : Orderly s) (m : Move s c s') : SameRecord s' s := by
  refine m.sameRecord (Option.eq_none_iff_forall_ne_some.2 fun o ho => ?_)
  obtain rfl : d = c := Option.some.inj (h.owner.symm.trans (ord.holder (Phase.stand_of_ending? ho)))
  have tries := h.phase
  generalize s.phase d = p at tries ho
  cases tries <;> cases ho

/-- The call that has been handed the lock goes on to start an exchange, or finds a fresh token, or is given up. -/
theorem move_self (h : HandedOn d n s) (m : Move s d s') :
    (HandedOn d n s' ∧ (s'.phase d).toStart < (s.phase d).toStart) ∨ .started d ∈ s'.history ∨
      .dropped d ∈ s'.history ∨ ∃ t, s.fresh = some t ∧ .hit d t ∈ s'.history := by
  obtain ⟨ho, hn, hp⟩ := h
  have goes {p p' : Phase} (hp : s.phase d = p) (hp' : s'.phase d = p') (ho' : s'.owner = s.owner)
      (hn' : s'.attempts = s.attempts) (ht : p'.Tries n) (hlt : p'.toStart < p.toStart) :
      HandedOn d n s' ∧ (s'.phase d).toStart < (s.phase d).toStart := by
    rw [hp, hp']
    exact ⟨⟨ho'.trans ho, hn'.trans hn, hp' ▸ ht⟩, hlt⟩
  cases m with
  | wake hq =>
    rw [hq] at hp
    cases hp
    exact .inl (goes hq (goto_phase_self ..) rfl rfl .rechecking (Nat.lt_succ_self 3))
  | lateHit _ hf => exact .inr (.inr (.inr ⟨_, hf, List.mem_cons_self ..⟩))
  | lateMiss hq =>
    rw [hq] at hp
    cases hp
    exact .inl (goes hq (goto_phase_self ..) rfl rfl .comparing (Nat.lt_succ_self 2))
  | unchanged hq => exact .inl (goes hq (goto_phase_self ..) rfl rfl .starting (Nat.lt_succ_self 1))
  | changed hq hne =>
    rw [hq] at hp
    cases hp
    exact absurd hn hne
  | start => exact .inr (.inl (List.mem_cons_self ..))
  | quit => exact .inr (.inr (.inl (List.mem_cons_self ..)))
  | call hq | hit hq | miss hq | count hq | lock hq | queue hq | relay hq | retry hq | finish _ hq | store hq | warn hq
  | clear hq | tell hq | keep hq | record hq | unlock hq | ret hq =>
    rw [hq] at hp
    cases hp

theorem move_of_ne (h : HandedOn d n s) (ord : Orderly s) (hne : c ≠ d) (m : Move s c s') : HandedOn d n s' :=
  ⟨ord.owner_move h.owner hne m, (h.sameRecord ord m).attempts.trans h.counter, by
    rw [m.phase_of_ne (Ne.symm hne)]; exact h.phase⟩

theorem elapse (h : HandedOn d n s) (x : Duration) : HandedOn d n (s.elapse x) := ⟨h.owner, h.counter, h.phase⟩

/-- A call that has been handed the lock stays so until it starts an exchange, finds a fresh token, or is given
up. -/
theorem step (h : HandedOn d n s) (r : Reachable s) (st : s.Step s') :
    HandedOn d n s' ∨ .started d ∈ s'.history ∨ .dropped d ∈ s'.history ∨ ∃ t, .hit d t ∈ s'.history := by
  obtain ⟨c, m⟩ | ⟨x, rfl⟩ := st.move
  · by_cases hc : c = d
    · subst c
      rcases h.move_self m with ⟨h', -⟩ | started | dropped | ⟨t, -, hit⟩
      · exact .inl h'
      · exact .inr (.inl started)
      · exact .inr (.inr (.inl dropped))
      · exact .inr (.inr (.inr ⟨t, hit⟩))
    · exact .inl (h.move_of_ne r.orderly hc m)
  · exact .inl (h.elapse x)

/-- When no token is fresh, it stays so until the call starts an exchange or is given up, and each of its moves
brings that closer. -/
theorem step_of_stale (h : HandedOn d n s) (stale : s.fresh = none) (r : Reachable s) (st : s.Step s') :
    (.started d ∈ s'.history ∨ .dropped d ∈ s'.history) ∨
      ((HandedOn d n s' ∧ s'.fresh = none) ∧
        ((s'.phase d).toStart < (s.phase d).toStart ∨ (s'.phase d).toStart = (s.phase d).toStart)) := by
  obtain ⟨c, m⟩ | ⟨x, rfl⟩ := st.move
  · have stale' : s'.fresh = none := (fresh_congr (h.sameRecord r.orderly m).cached m.now m.margin).trans stale
    by_cases hc : c = d
    · subst c
      rcases h.move_self m with ⟨h', hlt⟩ | started | dropped | ⟨t, hf, -⟩
      · exact .inr ⟨⟨h', stale'⟩, .inl hlt⟩
      · exact .inl (.inl started)
      · exact .inl (.inr dropped)
      · cases stale.symm.trans hf
    · exact .inr ⟨⟨h.move_of_ne r.orderly hc m, stale'⟩, .inr (by rw [m.phase_of_ne (Ne.symm hc)])⟩
  · exact .inr ⟨⟨h.elapse x, fresh_elapse x stale⟩, .inr rfl⟩

theorem next_isSome (h : HandedOn d n s) : (s.next d).isSome := by
  obtain ⟨ho, -, hp⟩ := h
  generalize hq : s.phase d = p at hp
  cases hp with
  | queued => rw [State.next, hq]; simp [ho]
  | rechecking | comparing | starting => rw [State.next, hq]; rfl

theorem not_returned (h : HandedOn d n s) (r : Reachable s) (o : Outcome) : .returned d o ∉ s.history := by
  intro hr
  have done := ((r.life d).of_returned (mem_own.2 ⟨hr, rfl⟩)).1
  have tries := h.phase
  rw [done] at tries
  cases tries

end HandedOn

end State

namespace Run

variable {r : Run} {i j : Nat} {c d : CallId} {n : Nat}

/-- Call `d` starts an exchange of its own before it returns anything; if the run is fair, it starts one or is given
up. -/
def Tries (r : Run) (d : CallId) : Prop :=
  (∀ i o, .returned d o ∈ (r.state i).history → .started d ∈ (r.state i).history) ∧
    (r.Fair → ∃ i, .started d ∈ (r.state i).history ∨ .dropped d ∈ (r.state i).history)

theorem not_returned_of_dropped {o : Outcome} (hd : .dropped d ∈ (r.state i).history) :
    .returned d o ∉ (r.state i).history := by
  intro hr
  obtain ⟨-, l, settled, hl⟩ := ((r.reachable i).life d).of_returned (mem_own.2 ⟨hr, rfl⟩)
  have mem : .dropped d ∈ own d (r.state i).history := mem_own.2 ⟨hd, rfl⟩
  rw [hl] at mem
  exact settled.not_mem_dropped (by simpa using mem)

/-- A call that has been handed the lock returns no failure but that of its own exchange. -/
theorem started_of_failed {e : TokenError} (h : State.HandedOn d n (r.state 0))
    (hr : .returned d (.failed e) ∈ (r.state i).history) : .started d ∈ (r.state i).history := by
  have past : State.HandedOn d n (r.state i) ∨ .started d ∈ (r.state i).history ∨
      .dropped d ∈ (r.state i).history ∨ ∃ t, .hit d t ∈ (r.state i).history := by
    refine keep (P := fun s => State.HandedOn d n s ∨ .started d ∈ s.history ∨ .dropped d ∈ s.history ∨
      ∃ t, .hit d t ∈ s.history) (fun s s' hs h st => ?_) (Nat.zero_le i) (.inl h)
    rcases h with h | started | dropped | ⟨t, hit⟩
    · exact h.step hs st
    · exact .inr (.inl (st.mem_history started))
    · exact .inr (.inr (.inl (st.mem_history dropped)))
    · exact .inr (.inr (.inr ⟨t, st.mem_history hit⟩))
  rcases past with h | started | dropped | ⟨t, hit⟩
  · exact absurd hr (h.not_returned (r.reachable i) _)
  · exact started
  · exact absurd hr (not_returned_of_dropped dropped)
  · -- A call that has found a fresh token returns that.
    have answered := ((r.reachable i).life d).of_answer (mem_own.2 ⟨hit, rfl⟩) rfl
    cases answered.2.1 _ (mem_own.2 ⟨hr, rfl⟩)

/-- A call that has been handed the lock when no token is fresh runs an exchange of its own. -/
theorem tries_of_handedOn (h : State.HandedOn d n (r.state 0)) (stale : (r.state 0).fresh = none) : r.Tries d := by
  refine ⟨fun i o hr => ?_, fun fair => ?_⟩
  · have past : (State.HandedOn d n (r.state i) ∧ (r.state i).fresh = none) ∨
        .started d ∈ (r.state i).history ∨ .dropped d ∈ (r.state i).history := by
      refine keep (P := fun s => (State.HandedOn d n s ∧ s.fresh = none) ∨ .started d ∈ s.history ∨
        .dropped d ∈ s.history) (fun s s' hs h st => ?_) (Nat.zero_le i) (.inl ⟨h, stale⟩)
      rcases h with ⟨h, stale⟩ | started | dropped
      · exact (h.step_of_stale stale hs st).elim .inr fun h' => .inl h'.1
      · exact .inr (.inl (st.mem_history started))
      · exact .inr (.inr (st.mem_history dropped))
    rcases past with ⟨h, -⟩ | started | dropped
    · exact absurd hr (h.not_returned (r.reachable i) _)
    · exact started
    · exact absurd hr (not_returned_of_dropped dropped)
  · have soon : ∃ i, 0 ≤ i ∧ (.started d ∈ (r.state i).history ∨ .dropped d ∈ (r.state i).history) := by
      refine fair.eventually (P := fun s => State.HandedOn d n s ∧ s.fresh = none)
        (Q := fun s => .started d ∈ s.history ∨ .dropped d ∈ s.history) (fun s => (s.phase d).toStart)
        (fun _ => d) (fun s s' hs h st => ?_) (fun s _ h => h.1.next_isSome) (fun s s' hs h hn => ?_) ⟨h, stale⟩
      · exact (h.1.step_of_stale h.2 hs st).imp_right fun ⟨h', hlt⟩ => ⟨h', hlt.imp_right fun he => ⟨he, rfl⟩⟩
      · rcases h.1.move_self (.of_next hn) with ⟨-, hlt⟩ | started | dropped | ⟨t, hf, -⟩
        · exact .inr hlt
        · exact .inl (.inl started)
        · exact .inl (.inr dropped)
        · cases h.2.symm.trans hf
    obtain ⟨i, -, hi⟩ := soon
    exact ⟨i, hi⟩

end Run

namespace State

variable {s₀ s s' : State} {c d : CallId}

theorem drop_eq (h : s.drop c = some s') :
    (s.phase c).canQuit ∧ s' = ((s.leave c).goto c .done).note (.dropped c) := by
  unfold drop at h
  split at h
  case h_5 => cases h
  all_goals
    rename_i hp
    cases h
    exact ⟨by rw [hp]; rfl, rfl⟩

theorem sameRecord_of_drop (hs : s.drop c = some s') : SameRecord s' s := by
  refine (Move.of_drop hs).sameRecord ?_
  obtain ⟨hq, -⟩ := drop_eq hs
  revert hq
  cases s.phase c <;> first | exact fun _ => rfl | exact nofun

theorem fresh_of_drop (hs : s.drop c = some s') : s'.fresh = s.fresh :=
  fresh_congr (sameRecord_of_drop hs).cached (Move.of_drop hs).now (Move.of_drop hs).margin

/-- Whoever is next in line when the call that has the lock is given up is handed it. -/
theorem Reachable.handedOn (r : Reachable s) (hs : s.drop c = some s') (ho : s.owner = some c)
    (hd : s.queue.head? = some d) (quiet : recordings (since d s.history) = []) :
    HandedOn d s.attempts s' := by
  obtain ⟨hne, n, hn⟩ := r.orderly.queued_of_mem (List.mem_of_mem_head? hd)
  have hdc : d ≠ c := by
    rintro rfl
    exact hne ho
  -- It stands in line with the counter as it has read it, and nothing has been counted since.
  have read : s.attempts = n := by
    have grown := r.attempts_eq (c := d) (n := n) (by rw [hn]; rfl)
    rw [quiet] at grown
    exact grown
  rw [(drop_eq hs).2, leave_of_owner ho]
  refine ⟨hd, rfl, ?_⟩
  show ((s.goto c .done).phase d).Tries s.attempts
  rw [goto_phase_of_ne _ _ hdc, hn, read]
  exact .queued

theorem Reachable.not_mem_line_of_drop (r : Reachable s) (hs : s.drop c = some s') : c ∉ s'.line := by
  intro hm
  have stands := ((Reachable.step r (.drop c hs)).orderly.mem c).1 hm
  rw [(drop_eq hs).2] at stands
  exact stands (congrArg Phase.stand (goto_phase_self ..))

theorem line_of_drop (hs : s.drop c = some s') :
    (s.owner = some c → s'.owner = s.queue.head? ∧ s'.queue = s.queue.tail) ∧
    (s.owner ≠ some c → s'.owner = s.owner ∧ s'.queue = s.queue.erase c) := by
  refine ⟨fun ho => ?_, fun ho => ?_⟩
  · rw [(drop_eq hs).2, leave_of_owner ho]
    exact ⟨rfl, rfl⟩
  · rw [(drop_eq hs).2, leave_of_not_owner ho]
    exact ⟨rfl, rfl⟩

theorem Reachable.tries_of_drop (r : Reachable s) (hs : s.drop c = some s') (ho : s.owner = some c)
    (hd : s.queue.head? = some d) (quiet : recordings (since d s.history) = []) {q : Run} (hq : q.state 0 = s') :
    (∀ i e, .returned d (.failed e) ∈ (q.state i).history → .started d ∈ (q.state i).history) ∧
    (s.fresh = none → q.Tries d) := by
  have handed : HandedOn d s.attempts (q.state 0) := hq ▸ r.handedOn hs ho hd quiet
  refine ⟨fun i e => Run.started_of_failed handed, fun stale => Run.tries_of_handedOn handed ?_⟩
  rw [hq, fresh_of_drop hs]
  exact stale

/-- A call that is given up while it waits, because its time is up or otherwise, leaves the cache, the last failure,
the counter and the log as they are and comes out of the line. If it had the lock, the next in line has been handed
it, and returns no failure but that of its own exchange; if no token is fresh it runs one, unless an exchange has
ended since it read the counter. A service that asks with a time limit leaves the source in a state that the source
gets to by its own steps. In each of them the counter counts the exchanges that have been started, but for those given
up and the one under way, and the log has one record for each of them and for one that is about to be counted. -/
theorem drop_leaves_no_trace (new : s₀.IsNew) (run : Relation.ReflTransGen Step s₀ s) :
    (∀ c s', s.drop c = some s' → SameRecord s' s ∧ c ∉ s'.line ∧
      (s.owner = some c → s'.owner = s.queue.head? ∧ s'.queue = s.queue.tail) ∧
      (s.owner ≠ some c → s'.owner = s.owner ∧ s'.queue = s.queue.erase c) ∧
      (∀ l : Simulation.Timeline, l.state = s → (l.expire c).state = s') ∧
      ∀ d, s.owner = some c → s.queue.head? = some d → recordings (since d s.history) = [] →
        ∀ r : Run, r.state 0 = s' →
          (∀ i e, .returned d (.failed e) ∈ (r.state i).history → .started d ∈ (r.state i).history) ∧
          (s.fresh = none → r.Tries d)) ∧
    (∀ (ρ : Type) (x : Simulation.Session ρ) (l : Simulation.Timeline), x.source = some (.refreshing l) →
      l.state = s → s.now.nanos ≤ x.now.nanos → ∀ k q patience, ∃ l', (x.fetch k q patience).source =
        some (.refreshing l') ∧ Relation.ReflTransGen Step s l'.state) ∧
    (s.attempts = s₀.attempts + (recordings s.history).length ∧
      ((∀ c, ¬ s.UnderWay c) → s₀.attempts + s.exchanges = s.attempts + abandoned s.history) ∧
      ∀ c, s.UnderWay c → s₀.attempts + s.exchanges = s.attempts + abandoned s.history + 1) ∧
    ((∀ c, (s.phase c).reported? = none) →
      s.log = s₀.log ++ ((recordings s.history).map report).reverse ∧ s.log.length = s.attempts) ∧
    ∀ c o, (s.phase c).reported? = some o →
      s.log = s₀.log ++ ((o :: recordings s.history).map report).reverse ∧ s.log.length = s.attempts + 1 := by
  have r := new.reachable.of_run run
  refine ⟨fun c s' hs => ⟨sameRecord_of_drop hs, r.not_mem_line_of_drop hs, (line_of_drop hs).1, (line_of_drop hs).2,
    ?_, fun d ho hd quiet q => r.tries_of_drop hs ho hd quiet⟩, ?_, new.balance run, new.log_eq run⟩
  · rintro l rfl
    rw [Simulation.Timeline.expire, hs]
    rfl
  · rintro ρ x l hx rfl later k q patience
    exact x.reaches_fetch hx later k q patience

/-- Call 0 is given up in the middle of its exchange while call 1 queues behind it, which then runs its own. -/
theorem drop_leaves_no_trace_while_exchanging :
    let s := (initial ⟨0⟩ ⟨0⟩).play (.call 0 :: Act.steps 0 6 ++ .call 1 :: Act.steps 1 3)
    let s' := s.perform (.drop 0)
    s.drop 0 = some s' ∧ SameRecord s' s ∧ s'.owner = some 1 ∧ s.exchanges = s.attempts + abandoned s.history + 1 ∧
      ∀ r : Run, r.state 0 = s' → r.Tries 1 := by
  intro s s'
  have hs : s.drop 0 = some s' := rfl
  have r : s.Reachable := .play (.initial ⟨0⟩ ⟨0⟩) _
  have run : Relation.ReflTransGen Step (initial ⟨0⟩ ⟨0⟩) s := reaches_play _ _
  obtain ⟨drops, -, ⟨-, -, busy⟩, -⟩ := drop_leaves_no_trace (.initial ⟨0⟩ ⟨0⟩) run
  obtain ⟨same, -, owner, -, -, tries⟩ := drops 0 s' hs
  have underWay : s.UnderWay 0 := r.underWay_iff.2 rfl
  refine ⟨hs, same, (owner rfl).1, (Nat.zero_add _).symm.trans (busy 0 underWay), fun r hr => ?_⟩
  exact (tries 1 rfl rfl rfl r hr).2 rfl

/-- Between its record and its count an exchange stands in the log, and not yet in the counter. -/
theorem logged_before_counted :
    let t := AccessToken.bearer "t"
    let s := (initial ⟨0⟩ ⟨0⟩).play (.call 0 :: Act.steps 0 6 ++ .finish 0 (.token t) :: Act.steps 0 3)
    s.Reachable ∧ s.phase 0 = .written (.token t) ∧ s.log = [obtained] ∧ s.attempts = 0 ∧
      ¬ ∀ s : State, s.Reachable → s.log.length = s.attempts := by
  intro t s
  have r : s.Reachable := .play (.initial ⟨0⟩ ⟨0⟩) _
  have log : s.log = [obtained] := rfl
  have attempts : s.attempts = 0 := rfl
  refine ⟨r, rfl, log, attempts, fun equal => ?_⟩
  have one := equal s r
  rw [log, attempts] at one
  cases one

end State

end IdentityClient.Refreshing
