import IdentityClient.Proofs.Slot.Tally
import Mathlib.Data.List.Basic

/-!
# Overlapping calls, one after the other

Calls that overlap come to what they could come to one after the other (`linearizable`): first those that fail, by
the time of their return, then the one whose constructor has given the value, then those that take it
(`lineUp`). The order is one that the calls allow for, since whoever calls after a value has been returned
constructs nothing. The call that has put the value in place may be the last to return; until it has, its return
is still to come (`StillToCome`).
-/

namespace IdentityClient.Slot

variable {α : Type}

def Call.succeeds (c : Call α) : Bool := c.outcome.value?.isSome

def Call.builds (c : Call α) : Bool := c.built.isSome

/-- The calls that have returned and failed, by the time of their return. -/
def failing (h : List (Event α)) : List (Call α) := (completed h).reverse.filter (!·.succeeds)

/-- Those that have returned a value they have constructed. -/
def building (h : List (Event α)) : List (Call α) := (completed h).reverse.filter fun c => c.builds && c.succeeds

/-- Those that have returned a value and constructed none. -/
def taking (h : List (Event α)) : List (Call α) := (completed h).reverse.filter fun c => !c.builds && c.succeeds

def lineUp (h : List (Event α)) : List (Call α) := failing h ++ (building h ++ taking h)

/-- What a thread returns whose construction is settled. -/
def Phase.due? : Phase α → Option (Outcome α)
  | .settling o | .notifying o | .leaving o => some o
  | _ => none

section
variable {h : List (Event α)} {c d : Call α} {v : α}

theorem lineUp_perm (h : List (Event α)) : (lineUp h).Perm (completed h) := by
  have good := List.filter_append_perm Call.builds ((completed h).reverse.filter Call.succeeds)
  rw [List.filter_filter, List.filter_filter] at good
  have all := List.filter_append_perm Call.succeeds (completed h).reverse
  exact ((good.append_left _).trans (List.perm_append_comm.trans all)).trans (List.reverse_perm _)

theorem Call.succeeds_iff : c.succeeds ↔ ∃ v, c.outcome = .value v := by
  rw [succeeds, Option.isSome_iff_exists]
  exact exists_congr fun _ => Outcome.value?_eq_some

theorem Sequential.failures {l r : List (Call α)} (hr : Sequential none r)
    (hl : ∀ c ∈ l, c.built = some c.outcome ∧ c.outcome.value? = none) : Sequential none (l ++ r) := by
  induction l with
  | nil => exact hr
  | cons c l ih =>
    obtain ⟨built, fails⟩ := hl c (List.mem_cons_self ..)
    refine .constructs built ?_
    rw [fails]
    exact ih fun d hd => hl d (List.mem_cons_of_mem _ hd)

theorem Sequential.served {l : List (Call α)} (hl : ∀ c ∈ l, c.built = none ∧ c.outcome = .value v) :
    Sequential (some v) l := by
  induction l with
  | nil => exact .nil
  | cons c l ih =>
    obtain ⟨idle, takes⟩ := hl c (List.mem_cons_self ..)
    exact .takes idle takes (ih fun d hd => hl d (List.mem_cons_of_mem _ hd))

theorem exists_suffix_of_mem {e : Event α} (hm : e ∈ h) : ∃ older, e :: older <:+ h := by
  obtain ⟨newer, older, rfl⟩ := List.append_of_mem hm
  exact ⟨older, List.suffix_append ..⟩

end

namespace State

variable {s s' : State α} {t u : Thread} {o : Outcome α} {c d : Call α} {v : α} {older : List (Event α)}

/-- What is still to come when the call that has put the value in place has not returned: its return. -/
def StillToCome (s : State α) (late : List (Event α)) : Prop :=
  late = [] ∨ ∃ t v, s.phase t ≠ .outside ∧ ran? t s.history = some (.value v) ∧ late = [.returned t (.value v)]

theorem Move.returned (m : Move s u s') (h : s'.history = .returned t o :: s.history) :
    s.phase t = .leaving o := by
  cases m with
  | ret hp => cases (List.cons.inj h).1; exact hp
  | call | claim | finish => cases (List.cons.inj h).1
  | _ => exact absurd h.symm (List.cons_ne_self _ _)

/-- Before a call has returned, there was a moment when it was about to. -/
theorem Reachable.of_returned (r : Reachable s) (h : .returned t o :: older <:+ s.history) :
    ∃ a, Reachable a ∧ a.phase t = .leaving o ∧ a.history = older := by
  induction r with
  | initial => cases List.suffix_nil.1 h
  | step r st ih =>
    rename_i s s'
    obtain ⟨u, m⟩ | ⟨u, rfl⟩ := st.move
    · rcases m.history with hh | ⟨e, -, hh⟩
      · exact ih (hh ▸ h)
      · rw [hh] at h
        rcases List.suffix_cons_iff.1 h with he | hs
        · obtain ⟨rfl, rfl⟩ := List.cons.inj he
          exact ⟨s, r, m.returned hh, rfl⟩
        · exact ih hs
    · rcases List.suffix_cons_iff.1 h with he | hs
      · cases (List.cons.inj he).1
      · exact ih hs

theorem Reachable.of_completed (r : Reachable s) (hc : c ∈ completed s.history) :
    ∃ a, Reachable a ∧ a.phase c.thread = .leaving c.outcome ∧ a.history <:+ s.history ∧
      c = .ofReturn c.thread c.outcome a.history := by
  obtain ⟨t, o, older, hs, rfl⟩ := mem_completed.1 hc
  obtain ⟨a, ra, hp, rfl⟩ := r.of_returned hs
  exact ⟨a, ra, hp, (List.suffix_cons ..).trans hs, rfl⟩

/-- A call returns what its own constructor comes to, or it runs none and returns a value. -/
theorem Reachable.outcome_eq (r : Reachable s) (hc : c ∈ completed s.history) :
    c.built = some c.outcome ∨ (c.built = none ∧ ∃ v, c.outcome = .value v) := by
  obtain ⟨a, ra, hp, -, hcall⟩ := r.of_completed hc
  have hb : c.built = ran? c.thread a.history := congrArg Call.built hcall
  rw [hb]
  exact (hp ▸ ra.lived c.thread).leaving

theorem Reachable.value_of_completed (r : Reachable s) (hc : c ∈ completed s.history) (ho : c.outcome = .value v) :
    s.value = some v := by
  obtain ⟨t, o, older, hs, rfl⟩ := mem_completed.1 hc
  obtain rfl : o = .value v := ho
  exact r.value_of_returned (hs.subset (List.mem_cons_self ..))

/-- No call that constructs is made after a value has been returned. -/
theorem Reachable.not_back_lt_made (r : Reachable s) (hc : c ∈ completed s.history) (hd : d ∈ completed s.history)
    (hb : c.built ≠ none) (ho : d.outcome = .value v) : ¬ d.back < c.made := by
  intro hlt
  obtain ⟨a, ra, -, hs, hcall⟩ := r.of_completed hc
  have before : .returned d.thread d.outcome ∈ beforeCall c.thread a.history := by
    rw [hcall] at hlt
    exact mem_of_back_lt hd ((beforeCall_suffix ..).trans hs) hlt
  rw [ho] at before
  refine hb ?_
  rw [hcall]
  exact (ra.ran?_eq_none before).1

theorem Reachable.not_mem_sinceCall (r : Reachable s) (h : s.phase t ≠ .outside) (o : Outcome α) :
    .returned t o ∉ sinceCall t s.history := by
  induction r with
  | initial => exact absurd rfl h
  | step r st ih =>
    rename_i s s'
    have skips {e : Event α} (hc : e.isCall t = false) (hne : .returned t o ≠ e) (hp : s.phase t ≠ .outside) :
        .returned t o ∉ sinceCall t (e :: s.history) := by
      rw [sinceCall_cons hc, List.mem_cons, not_or]
      exact ⟨hne, ih hp⟩
    have inCall {p : Phase α} (hp : s.phase t = p) (hne : p ≠ .outside) : s.phase t ≠ .outside := hp ▸ hne
    obtain ⟨u, m⟩ | ⟨u, rfl⟩ := st.move
    · by_cases hu : u = t
      · subst u
        cases m with
        | call =>
          show .returned t o ∉ sinceCall t (.called t :: s.history)
          rw [sinceCall_called]
          exact List.not_mem_nil
        | claim hp => exact skips rfl nofun (inCall hp nofun)
        | finish c hp => exact skips rfl nofun (inCall hp nofun)
        | ret => exact absurd (goto_phase_self ..) h
        | lock hp | refuse hp =>
          refine ih fun out => ?_
          rw [out] at hp
          cases hp
        | hit hp | miss hp | find hp | await hp | relock hp | refuseStore hp | keep hp | discard hp | settle hp
        | notify hp | wake hp => exact ih (inCall hp nofun)
      · have inside : s.phase t ≠ .outside := by
          rcases m.phase_of_ne (Ne.symm hu) with he | ⟨hw, -⟩
          · rw [← he]; exact h
          · rw [hw]; exact nofun
        rcases m.history with hh | ⟨e, he, hh⟩
        · rw [hh]; exact ih inside
        · rw [hh]
          refine skips (isCall_of_ne (he ▸ hu)) ?_ inside
          rintro rfl
          exact hu he.symm
    · exact skips rfl nofun h

theorem Told.head_of_mem (h : Told s) (hm : .ended t (.value v) ∈ s.history) :
    (endings s.history).head? = some (t, .value v) := by
  have mem : (t, .value v) ∈ endings s.history := mem_endings.2 hm
  have tail := h.tail t v
  cases he : endings s.history with
  | nil => rw [he] at mem; cases mem
  | cons x l =>
    rw [he] at mem tail
    rw [(List.mem_cons.1 mem).resolve_right tail, List.head?_cons]

/-- One call at most that has returned has put a value in place. -/
theorem Reachable.back_le_of_built {w : α} (r : Reachable s) (hc : c ∈ completed s.history)
    (hd : d ∈ completed s.history) (hcb : c.built = some (.value v)) (hdb : d.built = some (.value w)) :
    c.back ≤ d.back := by
  refine Nat.not_lt.1 fun hlt => ?_
  obtain ⟨a, ra, hp, hs, hcall⟩ := r.of_completed hc
  obtain ⟨b, -, -, hs', hcall'⟩ := r.of_completed hd
  have crun : ran? c.thread a.history = some (.value v) := (congrArg Call.built hcall).symm.trans hcb
  have drun : ran? d.thread b.history = some (.value w) := (congrArg Call.built hcall').symm.trans hdb
  have same : d.thread = c.thread := by
    have chead := r.told.head_of_mem (hs.subset (mem_of_ran? crun))
    have dhead := r.told.head_of_mem (hs'.subset (mem_of_ran? drun))
    exact congrArg Prod.fst (Option.some.inj (dhead.symm.trans chead))
  have douts : d.outcome = .value w := by
    rcases r.outcome_eq hd with hb | ⟨hb, -⟩
    · exact Option.some.inj (hb.symm.trans hdb)
    · cases hb.symm.trans hdb
  -- The one that has returned first had returned when the other was made, so that has constructed nothing.
  have before : .returned c.thread (.value w) ∈ beforeCall c.thread a.history := by
    refine mem_beforeCall ?_ rfl (ra.not_mem_sinceCall (by rw [hp]; exact nofun) _)
    rw [← same, ← douts]
    rw [hcall] at hlt
    exact mem_of_back_lt hd hs hlt
  cases crun.symm.trans (ra.ran?_eq_none before).1

theorem Move.mem_completed (m : Move s u s') (hc : c ∈ completed s.history) : c ∈ completed s'.history := by
  rcases m.history with hh | ⟨e, -, hh⟩
  · rw [hh]; exact hc
  · rw [hh]
    cases e with
    | returned => exact List.mem_cons_of_mem _ hc
    | _ => exact hc

/-- A thread whose construction is settled goes on until it returns what came of it. -/
theorem Move.due (m : Move s t s') (h : (s.phase t).due? = some o) :
    ((s'.phase t).due? = some o ∧ s'.history = s.history) ∨ s'.history = .returned t o :: s.history := by
  have going {p : Phase α} (hp : s.phase t = p) : p.due? = some o := hp ▸ h
  cases m with
  | settle hp | notify hp =>
    have stays := going hp
    exact .inl ⟨(congrArg Phase.due? (goto_phase_self ..)).trans stays, rfl⟩
  | ret hp =>
    obtain rfl := Option.some.inj (going hp)
    exact .inr rfl
  | lock hp | refuse hp =>
    generalize s.phase t = p at hp h
    cases p <;> first | cases hp; done | cases h
  | finish c hp => cases going hp
  | call hp | hit hp | miss hp | find hp | await hp | claim hp | relock hp | refuseStore hp | keep hp | discard hp
  | wake hp => cases going hp

/-- Whoever has put the value in place returns it, or has returned it. -/
theorem Reachable.builder (r : Reachable s) (h : s.value = some v) :
    (∃ c ∈ completed s.history, c.built = some (.value v)) ∨
      ∃ t, (s.phase t).due? = some (.value v) ∧ ran? t s.history = some (.value v) := by
  induction r with
  | initial => cases h
  | step r st ih =>
    rename_i s s'
    obtain ⟨u, m⟩ | ⟨u, rfl⟩ := st.move
    · cases hv : s.value with
      | none =>
        -- The value has just been put in place.
        cases m with
        | @keep w hp =>
          have kept : s.value.getD w = v := Option.some.inj h
          obtain rfl : w = v := by rw [← kept, hv]; rfl
          refine .inr ⟨u, ?_, ?_⟩
          · rw [kept, goto_phase_self]; rfl
          · have lived := hp ▸ r.lived u
            show ran? u s.history = some (.value w)
            generalize ran? u s.history = x at lived
            cases lived
            rfl
        | _ => cases hv.symm.trans h
      | some w =>
        obtain rfl : w = v := Option.some.inj ((st.value_mono w hv).symm.trans h)
        rcases ih hv with ⟨c, hc, hb⟩ | ⟨t, hd, hr⟩
        · exact .inl ⟨c, m.mem_completed hc, hb⟩
        · by_cases hu : u = t
          · subst u
            rcases m.due hd with ⟨hd', hh⟩ | hh
            · exact .inr ⟨t, hd', hh ▸ hr⟩
            · rw [hh]
              exact .inl ⟨_, List.mem_cons_self .., hr⟩
          · refine .inr ⟨t, ?_, (m.ran?_of_ne hu).1.trans hr⟩
            rcases m.phase_of_ne (Ne.symm hu) with he | ⟨hw, -⟩
            · rw [he]; exact hd
            · rw [hw] at hd; cases hd
    · rcases ih h with done | ⟨t, hd, hr⟩
      · exact .inl done
      · exact .inr ⟨t, hd, (ran?_cons rfl rfl _).trans hr⟩

/-- A thread whose construction is settled can go on until it has returned. -/
theorem Reachable.exists_returned (r : Reachable s) (h : (s.phase t).due? = some o) :
    ∃ s', Reachable s' ∧ s'.history = .returned t o :: s.history := by
  have leave {a : State α} (ra : Reachable a) (hp : a.phase t = .leaving o) :
      ∃ s', Reachable s' ∧ s'.history = .returned t o :: a.history :=
    ⟨_, ra.step (.next t .panicked (by rw [next, hp])), rfl⟩
  have notify {a : State α} (ra : Reachable a) (hp : a.phase t = .notifying o) :
      ∃ s', Reachable s' ∧ s'.history = .returned t o :: a.history :=
    leave (a := a.notifyAll.goto t (.leaving o)) (ra.step (.next t .panicked (by rw [next, hp])))
      (goto_phase_self ..)
  cases hp : s.phase t with
  | settling o' =>
    rw [hp] at h
    obtain rfl := Option.some.inj h
    exact notify (a := { s.release with stage := stageAfter o' }.goto t (.notifying o'))
      (r.step (.next t .panicked (by rw [next, hp]))) (goto_phase_self ..)
  | notifying o' => rw [hp] at h; obtain rfl := Option.some.inj h; exact notify r hp
  | leaving o' => rw [hp] at h; obtain rfl := Option.some.inj h; exact leave r hp
  | _ => rw [hp] at h; cases h

theorem Reachable.mem_failing (r : Reachable s) (hc : c ∈ failing s.history) :
    c ∈ completed s.history ∧ c.built = some c.outcome ∧ c.outcome.value? = none := by
  simp only [failing, List.mem_filter, List.mem_reverse, Bool.not_eq_true'] at hc
  obtain ⟨mem, fails⟩ := hc
  have empty : ¬ ∃ v, c.outcome = .value v := fun h => by
    rw [Call.succeeds_iff.2 h] at fails
    cases fails
  refine ⟨mem, (r.outcome_eq mem).resolve_right fun h => empty h.2, ?_⟩
  exact Outcome.value?_eq_none.2 fun v hv => empty ⟨v, hv⟩

theorem Reachable.mem_building (r : Reachable s) (hc : c ∈ building s.history) :
    c ∈ completed s.history ∧ c.built = some c.outcome ∧ ∃ v, c.outcome = .value v := by
  simp only [building, List.mem_filter, List.mem_reverse, Bool.and_eq_true] at hc
  obtain ⟨mem, builds, succeeds⟩ := hc
  refine ⟨mem, (r.outcome_eq mem).resolve_right fun ⟨hn, _⟩ => ?_, Call.succeeds_iff.1 succeeds⟩
  rw [Call.builds, hn] at builds
  cases builds

theorem mem_taking (hc : c ∈ taking s.history) :
    c ∈ completed s.history ∧ c.built = none ∧ ∃ v, c.outcome = .value v := by
  simp only [taking, List.mem_filter, List.mem_reverse, Bool.and_eq_true, Bool.not_eq_true'] at hc
  obtain ⟨mem, idle, succeeds⟩ := hc
  exact ⟨mem, Option.not_isSome_iff_eq_none.1 (ne_true_of_eq_false idle), Call.succeeds_iff.1 succeeds⟩

/-- Whoever stands behind another in line had not returned when that was made. -/
theorem Reachable.lineUp_realTime (r : Reachable s) :
    (lineUp s.history).Pairwise fun c d => ¬ d.back < c.made := by
  have inOrder : (completed s.history).reverse.Pairwise fun c d => c.back < d.back :=
    List.pairwise_reverse.2 (completed_pairwise s.history)
  -- Calls of one kind stand in the order of their return, and a call is made before it returns.
  have later {l : List (Call α)} (hl : l.Sublist (completed s.history).reverse) :
      l.Pairwise fun c d => ¬ d.back < c.made := by
    refine (inOrder.sublist hl).imp_of_mem fun hc _ hlt => ?_
    have made := made_le_back (List.mem_reverse.1 (hl.mem hc))
    omega
  have before {c d : Call α} (hc : c ∈ completed s.history) (hb : c.built = some c.outcome)
      (hd : d ∈ building s.history ∨ d ∈ taking s.history) : ¬ d.back < c.made := by
    have builds : c.built ≠ none := by rw [hb]; exact nofun
    rcases hd with hd | hd
    · obtain ⟨mem, -, v, hv⟩ := r.mem_building hd
      exact r.not_back_lt_made hc mem builds hv
    · obtain ⟨mem, -, v, hv⟩ := mem_taking hd
      exact r.not_back_lt_made hc mem builds hv
  refine List.pairwise_append.2 ⟨later List.filter_sublist, ?_, fun c hc d hd => ?_⟩
  · refine List.pairwise_append.2 ⟨later List.filter_sublist, later List.filter_sublist, fun c hc d hd => ?_⟩
    obtain ⟨mem, built, -⟩ := r.mem_building hc
    exact before mem built (.inr hd)
  · obtain ⟨mem, built, -⟩ := r.mem_failing hc
    exact before mem built (List.mem_append.1 hd)

theorem eq_singleton_of_pairwise {l : List (Call α)} (hl : l.Pairwise fun c d => c.back < d.back) (hc : c ∈ l)
    (le : ∀ a ∈ l, ∀ b ∈ l, a.back ≤ b.back) : l = [c] := by
  match l with
  | [] => cases hc
  | [d] => rw [List.mem_singleton.1 hc]
  | d :: e :: l =>
    have lt := List.rel_of_pairwise_cons hl (List.mem_cons_self ..)
    have ge := le e (List.mem_cons_of_mem _ (List.mem_cons_self ..)) d (List.mem_cons_self ..)
    omega

/-- Calls that have returned can be put in line when the one that has put the value in place is among them. -/
theorem Reachable.linearizes (r : Reachable s)
    (h : ∀ v, s.value = some v → ∃ c ∈ completed s.history, c.built = some (.value v)) :
    Linearizes s.history (lineUp s.history) := by
  refine ⟨lineUp_perm _, r.lineUp_realTime, Sequential.failures ?_ fun c hc => (r.mem_failing hc).2⟩
  cases hv : s.value with
  | none =>
    -- Whoever returns a value has found it in place.
    have nobody : building s.history = [] ∧ taking s.history = [] := by
      refine ⟨List.eq_nil_iff_forall_not_mem.2 fun c hc => ?_, List.eq_nil_iff_forall_not_mem.2 fun c hc => ?_⟩
      · obtain ⟨mem, -, v, ho⟩ := r.mem_building hc
        cases hv.symm.trans (r.value_of_completed mem ho)
      · obtain ⟨mem, -, v, ho⟩ := mem_taking hc
        cases hv.symm.trans (r.value_of_completed mem ho)
    rw [nobody.1, nobody.2]
    exact .nil
  | some v =>
    obtain ⟨c, hc, hb⟩ := h v hv
    have ho : c.outcome = .value v := by
      rcases r.outcome_eq hc with ho | ⟨hn, -⟩
      · exact Option.some.inj (ho.symm.trans hb)
      · cases hn.symm.trans hb
    have one : building s.history = [c] := by
      refine eq_singleton_of_pairwise ?_ ?_ fun a ha b hb => ?_
      · exact (List.pairwise_reverse.2 (completed_pairwise s.history)).sublist List.filter_sublist
      · rw [building, List.mem_filter, List.mem_reverse, Bool.and_eq_true]
        exact ⟨hc, by rw [Call.builds, hb]; rfl, Call.succeeds_iff.2 ⟨v, ho⟩⟩
      · obtain ⟨ma, ba, v, hv⟩ := r.mem_building ha
        obtain ⟨mb, bb, w, hw⟩ := r.mem_building hb
        exact r.back_le_of_built ma mb (hv ▸ ba) (hw ▸ bb)
    rw [one]
    refine .constructs (hb.trans (congrArg some ho.symm)) ?_
    rw [ho]
    refine Sequential.served fun d hd => ?_
    obtain ⟨mem, idle, w, hw⟩ := mem_taking hd
    obtain rfl : v = w := Option.some.inj (hv.symm.trans (r.value_of_completed mem hw))
    exact ⟨idle, hw⟩

theorem Reachable.isSome_firstValue? (r : Reachable s) (out : ∀ t, s.phase t = .outside) :
    (firstValue? s.history).isSome = (completed s.history).any Call.succeeds := by
  rw [Bool.eq_iff_iff, List.any_eq_true]
  constructor
  · intro h
    obtain ⟨v, hv⟩ := Option.isSome_iff_exists.1 h
    rw [firstValue?_eq_head r.told.tail] at hv
    obtain ⟨⟨t, o⟩, head, ho⟩ := Option.bind_eq_some_iff.1 hv
    obtain rfl : o = .value v := Outcome.value?_eq_some.1 ho
    have stored : s.value = some v := by
      refine (r.told.open_ t v head).resolve_right fun hb => ?_
      rw [out t] at hb
      cases hb
    rcases r.builder stored with ⟨c, hc, hb⟩ | ⟨u, hd, -⟩
    · refine ⟨c, hc, Call.succeeds_iff.2 ?_⟩
      rcases r.outcome_eq hc with ho | ⟨-, ho⟩
      · exact ⟨v, Option.some.inj (ho.symm.trans hb)⟩
      · exact ho
    · rw [out u] at hd
      cases hd
  · rintro ⟨c, hc, hs⟩
    obtain ⟨v, hv⟩ := Call.succeeds_iff.1 hs
    rw [r.firstValue?_eq (r.value_of_completed hc hv)]
    rfl

/-- Overlapping calls come to what they come to in some order one after the other that lets no call stand before
one that had returned when it was made. All return the value of the first construction that has given one, or
what their own constructor has come to, and the constructions are those that have failed and, if there is a value,
one more. No call says that the lock is unusable unless its own constructor has said so. -/
theorem linearizable (r : Reachable s) :
    (∃ late order, s.StillToCome late ∧ Linearizes (late ++ s.history) order) ∧
    (∀ c ∈ completed s.history, (∃ v, c.outcome = .value v ∧ firstValue? s.history = some v) ∨
      ((∀ v, c.outcome ≠ .value v) ∧ c.built = some c.outcome)) ∧
    ((∀ t, s.phase t ≠ .constructing) →
      s.constructions = failures s.history + if (firstValue? s.history).isSome then 1 else 0) ∧
    ((∀ t, s.phase t = .outside) → (firstValue? s.history).isSome = (completed s.history).any Call.succeeds) ∧
    ∀ t service, .returned t (.failed (.poisoned service)) ∈ s.history →
      .ended t (.failed (.poisoned service)) ∈ s.history := by
  refine ⟨?_, fun c hc => ?_, fun idle => ?_, r.isSome_firstValue?, fun t service hm => ?_⟩
  · cases hv : s.value with
    | none => exact ⟨[], _, .inl rfl, r.linearizes fun v h => by cases hv.symm.trans h⟩
    | some v =>
      rcases r.builder hv with done | ⟨t, hd, hr⟩
      · refine ⟨[], _, .inl rfl, r.linearizes fun w h => ?_⟩
        obtain rfl := Option.some.inj (hv.symm.trans h)
        exact done
      · -- The call that has put the value in place goes on until it has returned.
        obtain ⟨s', r', hh⟩ := r.exists_returned hd
        have returned : .returned t (.value v) ∈ s'.history := by rw [hh]; exact List.mem_cons_self ..
        refine ⟨[.returned t (.value v)], lineUp s'.history, .inr ⟨t, v, fun out => ?_, hr, rfl⟩, ?_⟩
        · rw [out] at hd
          cases hd
        · show Linearizes (.returned t (.value v) :: s.history) _
          rw [← hh]
          refine r'.linearizes fun w h => ?_
          obtain rfl : v = w := Option.some.inj ((r'.value_of_returned returned).symm.trans h)
          rw [hh]
          exact ⟨_, List.mem_cons_self .., hr⟩
  · rcases r.outcome_eq hc with hb | ⟨-, v, hv⟩
    · cases ho : c.outcome with
      | value v => exact .inl ⟨v, rfl, r.firstValue?_eq (r.value_of_completed hc ho)⟩
      | failed | panicked => exact .inr ⟨nofun, ho ▸ hb⟩
    · exact .inl ⟨v, hv, r.firstValue?_eq (r.value_of_completed hc hv)⟩
  · rw [r.numbered.idle idle, length_endings r.told.tail]
  · obtain ⟨older, hs⟩ := exists_suffix_of_mem hm
    obtain ⟨a, ra, hp, rfl⟩ := r.of_returned hs
    rcases (hp ▸ ra.lived t).leaving with hr | ⟨-, v, hv⟩
    · exact ((List.suffix_cons ..).trans hs).subset (mem_of_ran? hr)
    · cases hv

/-- Thread 1 waits while the constructor of thread 0 runs and panics; then it constructs the value itself. -/
theorem linearizable_after_panic :
    let s : State Nat := runThread 1 (.value 7) (runThread 0 .panicked (ask 1 (.value 7)
      (runUntil (· == .constructing) 0 .panicked callSteps (((State.initial "").goto 0 .entered).note (.called 0)))))
    s.Reachable ∧ (completed s.history).map (fun c => (c.thread, c.outcome)) = [(1, .value 7), (0, .panicked)] ∧
      firstValue? s.history = some 7 ∧ failures s.history = 1 ∧ s.constructions = failures s.history + 1 ∧
      ∃ late order, s.StillToCome late ∧ Linearizes (late ++ s.history) order := by
  intro s
  have r0 := Reachable.runUntil (α := Nat) (· == .constructing) 0 .panicked callSteps
    (.step (.initial "") (.call 0 rfl))
  have r : s.Reachable := reachable_runThread 1 (.value 7) (reachable_runThread 0 .panicked
    (reachable_runThread 1 (.value 7) (.step r0 (.call 1 rfl))))
  obtain ⟨order, returns, runs, -⟩ := linearizable r
  have idle : ∀ t, s.phase t ≠ .constructing := by
    intro t ht
    have progress := r.guarded.stage.2 ⟨t, by rw [ht]; rfl⟩
    cases progress
  refine ⟨r, rfl, ?_, rfl, runs idle, order⟩
  rcases returns _ (List.mem_cons_self ..) with ⟨v, hv, first⟩ | ⟨fails, -⟩
  · obtain rfl : 7 = v := by cases hv; rfl
    exact first
  · exact absurd rfl (fails 7)

end State

end IdentityClient.Slot
