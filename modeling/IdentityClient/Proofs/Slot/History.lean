import IdentityClient.Proofs.Slot.Calls
import IdentityClient.Proofs.Slot.Construct

/-!
# What the history tells of the value

A construction that gives a value is the last one (`Told`): the value is that of the latest construction, and no
earlier one has given any. What a thread has run in its call, and what it is about to return, is told by its phase
(`Lived`). So whoever calls after a value has been returned constructs nothing (`Reachable.ran?_eq_none`).
-/

namespace IdentityClient.Slot

variable {α : Type}

/-- The end of a construction: whose it was, and what it has come to. -/
def Event.built? : Event α → Option (Thread × Outcome α)
  | .ended t o => some (t, o)
  | _ => none

/-- The constructions that have ended, the latest first. -/
def endings (h : List (Event α)) : List (Thread × Outcome α) := h.filterMap Event.built?

theorem mem_endings {t : Thread} {o : Outcome α} {h : List (Event α)} :
    (t, o) ∈ endings h ↔ .ended t o ∈ h := by
  simp only [endings, List.mem_filterMap]
  constructor
  · rintro ⟨e, he, hb⟩
    cases e <;> cases hb
    exact he
  · exact fun h => ⟨_, h, rfl⟩

theorem Phase.claims_of_built? {p : Phase α} {o : Outcome α} (h : p.built? = some o) : p.claims := by
  cases p with
  | storing | recording => rfl
  | settling o => cases o <;> rfl
  | _ => cases h

/-- The value of a call in phase `p` that has come to `o` is in place. -/
def Kept (value : Option α) (o : Outcome α) : Prop := ∀ v, o = .value v → value = some v

/-- What a thread that stands in a phase has run in its call, while the slot holds `value`. -/
inductive Lived (value : Option α) : Phase α → Option (Outcome α) → Prop
  | outside (x : Option (Outcome α)) : Lived value .outside x
  | entered : Lived value .entered none
  | locking : Lived value .locking none
  | looking : Lived value .looking none
  | waiting : Lived value .waiting none
  | woken : Lived value .woken none
  | constructing : Lived value .constructing none
  | storing (o : Outcome α) : Lived value (.storing o) (some o)
  | recording (o : Outcome α) : Lived value (.recording o) (some o)
  | settling {o : Outcome α} : Kept value o → Lived value (.settling o) (some o)
  | notifying {o : Outcome α} : Kept value o → Lived value (.notifying o) (some o)
  | built {o : Outcome α} : Kept value o → Lived value (.leaving o) (some o)
  | served {v : α} : value = some v → Lived value (.leaving (.value v)) none

theorem Kept.mono {value value' : Option α} {o : Outcome α} (h : Kept value o)
    (hv : ∀ v, value = some v → value' = some v) : Kept value' o :=
  fun v ho => hv v (h v ho)

theorem Lived.mono {value value' : Option α} {p : Phase α} {x : Option (Outcome α)} (h : Lived value p x)
    (hv : ∀ v, value = some v → value' = some v) : Lived value' p x := by
  cases h with
  | settling hk => exact .settling (hk.mono hv)
  | notifying hk => exact .notifying (hk.mono hv)
  | built hk => exact .built (hk.mono hv)
  | served hs => exact .served (hv _ hs)
  | outside => exact .outside _
  | entered => exact .entered
  | locking => exact .locking
  | looking => exact .looking
  | waiting => exact .waiting
  | woken => exact .woken
  | constructing => exact .constructing
  | storing => exact .storing _
  | recording => exact .recording _

theorem Lived.eq_none_of_waiting {value : Option α} {x : Option (Outcome α)} (h : Lived value .waiting x) :
    x = none := by
  cases h
  rfl

theorem Lived.kept {value : Option α} {o : Outcome α} {x : Option (Outcome α)}
    (h : Lived value (.leaving o) x) : Kept value o := by
  cases h with
  | built hk => exact hk
  | served hv => exact fun v ho => by cases ho; exact hv

/-- A call that does not return what its own constructor came to has run none, and returns what was there. -/
theorem Lived.leaving {value : Option α} {o : Outcome α} {x : Option (Outcome α)}
    (h : Lived value (.leaving o) x) : x = some o ∨ (x = none ∧ ∃ v, o = .value v) := by
  cases h with
  | built => exact .inl rfl
  | @served v => exact .inr ⟨rfl, v, rfl⟩

namespace State

variable {s s' : State α} {t u : Thread} {o : Outcome α}

theorem Move.history (m : Move s t s') :
    s'.history = s.history ∨ ∃ e : Event α, e.thread = t ∧ s'.history = e :: s.history := by
  cases m with
  | call | claim | finish | ret => exact .inr ⟨_, rfl, rfl⟩
  | _ => exact .inl rfl

/-- What one thread does is no part of another's call. -/
theorem Move.ran?_of_ne (m : Move s u s') (h : u ≠ t) :
    ran? t s'.history = ran? t s.history ∧ beforeCall t s'.history = beforeCall t s.history := by
  obtain hh | ⟨e, he, hh⟩ := m.history
  · rw [hh]; exact ⟨rfl, rfl⟩
  · have hne : e.thread ≠ t := he ▸ h
    rw [hh]
    exact ⟨ran?_cons (isCall_of_ne hne) (ending?_of_ne hne) _, beforeCall_cons (isCall_of_ne hne) _⟩

/-- What the history tells of the value: it is what the latest construction has come to, no other has come to
one, and until it is in place the thread that has constructed it still claims the slot. -/
structure Told (s : State α) : Prop where
  head : ∀ v, s.value = some v → ∃ t, (endings s.history).head? = some (t, .value v)
  tail : ∀ t v, (t, .value v) ∉ (endings s.history).tail
  built : ∀ t o, (s.phase t).built? = some o → (endings s.history).head? = some (t, o)
  open_ : ∀ t v, (endings s.history).head? = some (t, .value v) →
    s.value = some v ∨ (s.phase t).built? = some (.value v)

namespace Told

theorem congr (h : Told s) (he : endings s'.history = endings s.history) (hv : s'.value = s.value)
    (hb : ∀ u, (s'.phase u).built? = (s.phase u).built?) : Told s' := by
  refine ⟨fun v => ?_, ?_, fun u o => ?_, fun u v => ?_⟩
  · rw [hv, he]; exact h.head v
  · rw [he]; exact h.tail
  · rw [hb, he]; exact h.built u o
  · rw [he, hv, hb]; exact h.open_ u v

/-- While a constructor runs, no construction has given a value. -/
theorem head_ne_value (h : Told s) (g : Guarded s) (hp : s.phase t = .constructing) (u : Thread) (v : α) :
    (endings s.history).head? ≠ some (u, .value v) := by
  intro hd
  have claims : (s.phase t).claims := by rw [hp]; rfl
  rcases h.open_ u v hd with hv | hb
  · cases hv.symm.trans (g.unset hp rfl nofun)
  · obtain rfl := g.claim t u claims (Phase.claims_of_built? hb)
    rw [hp] at hb
    cases hb

theorem finish (h : Told s) (g : Guarded s) (hp : s.phase t = .constructing) (c : Outcome α) :
    Told (s.finish t c) := by
  have claims : (s.phase t).claims := by rw [hp]; rfl
  have unset : s.value = none := g.unset hp rfl nofun
  have ends : endings (s.finish t c).history = (t, c) :: endings s.history := rfl
  have mine : ((s.finish t c).phase t).built? = some c := congrArg Phase.built? (goto_phase_self ..)
  refine ⟨fun v hv => ?_, fun u v hm => ?_, fun u o hb => ?_, fun u v hd => ?_⟩
  · cases unset.symm.trans hv
  · -- What was the latest construction before is among the earlier ones now.
    rw [ends, List.tail_cons] at hm
    cases he : endings s.history with
    | nil => rw [he] at hm; cases hm
    | cons x l =>
      rw [he] at hm
      rcases List.mem_cons.1 hm with rfl | hl
      · exact h.head_ne_value g hp u v (by rw [he]; rfl)
      · exact h.tail u v (by rw [he]; exact hl)
  · have hu : u = t := by
      refine Classical.byContradiction fun hne => ?_
      have hb' : (s.phase u).built? = some o := by rwa [← goto_phase_of_ne s (.storing c) hne]
      exact hne (g.claim u t (Phase.claims_of_built? hb') claims)
    subst u
    rw [mine] at hb
    rw [ends, List.head?_cons, Option.some.inj hb]
  · rw [ends, List.head?_cons, Option.some.injEq, Prod.mk.injEq] at hd
    obtain ⟨rfl, rfl⟩ := hd
    exact .inr mine

theorem keep (h : Told s) {v : α} (hp : s.phase t = .recording (.value v)) :
    Told ({ s with value := some v }.goto t (.settling (.value v))) := by
  have head : (endings s.history).head? = some (t, .value v) := h.built t _ (by rw [hp]; rfl)
  have built : ∀ u, ((s.goto t (.settling (.value v))).phase u).built? = (s.phase u).built? :=
    goto_same Phase.built? (by rw [hp]; rfl)
  refine ⟨fun w hw => ?_, h.tail, fun u o hb => h.built u o (by rw [← built]; exact hb), fun u w hd => .inl ?_⟩
  · obtain rfl : v = w := Option.some.inj hw
    exact ⟨t, head⟩
  · cases head.symm.trans hd
    rfl

theorem settle (h : Told s) (g : Guarded s) (hp : s.phase t = .settling o) :
    Told ({ s.release with stage := stageAfter o }.goto t (.notifying o)) := by
  have others {u : Thread} (hu : u ≠ t) :
      ((s.goto t (.notifying o)).phase u).built? = (s.phase u).built? := by rw [goto_phase_of_ne _ _ hu]
  refine ⟨h.head, h.tail, fun u o' hb => ?_, fun u v hd => ?_⟩
  · by_cases hu : u = t
    · subst u
      have settled : ((s.goto t (.notifying o)).phase t).built? = none := congrArg Phase.built? (goto_phase_self ..)
      cases settled.symm.trans hb
    · exact h.built u o' (by rw [← others hu]; exact hb)
  · rcases h.open_ u v hd with hv | hb
    · exact .inl hv
    · by_cases hu : u = t
      · subst u
        rw [hp] at hb
        cases hb
        exact .inl (g.settled t v (by rw [hp]; rfl))
      · exact .inr (by rw [← hb]; exact others hu)

theorem move (h : Told s) (g : Guarded s) (m : Move s t s') : Told s' := by
  have same {p : Phase α} (hp : s'.phase t = p) (hb : p.built? = (s.phase t).built?) :
      ∀ u, (s'.phase u).built? = (s.phase u).built? := m.same Phase.built? rfl rfl hp hb
  cases m with
  | finish c hp => exact h.finish g hp c
  | @keep v hp =>
    rw [g.unset_of_recording hp]
    exact h.keep hp
  | settle hp => exact h.settle g hp
  | lock hp | refuse hp =>
    refine h.congr rfl rfl (same (goto_phase_self ..) ?_)
    generalize s.phase t = p at hp
    cases p <;> first | rfl | cases hp
  | refuseStore _ _ hp => cases g.usable.symm.trans hp
  | call hp | hit hp | miss hp | find hp | await hp | claim hp | relock hp | discard hp | notify hp | ret hp
  | wake hp => exact h.congr rfl rfl (same (goto_phase_self ..) (by rw [hp]; rfl))

end Told

theorem Reachable.told (r : Reachable s) : Told s := by
  induction r with
  | initial => exact ⟨nofun, nofun, nofun, nofun⟩
  | step r st ih =>
    obtain ⟨t, m⟩ | ⟨t, rfl⟩ := st.move
    · exact ih.move r.guarded m
    · exact ih.congr rfl rfl fun _ => rfl

theorem lived_move_self (g : Guarded s) (h : Lived s.value (s.phase t) (ran? t s.history)) (m : Move s t s') :
    Lived s'.value (s'.phase t) (ran? t s'.history) := by
  have goes {p p' : Phase α} (hp : s.phase t = p) (hp' : s'.phase t = p') (hh : ran? t s'.history = ran? t s.history)
      (step : ∀ x, Lived s.value p x → Lived s'.value p' x) : Lived s'.value (s'.phase t) (ran? t s'.history) := by
    rw [hp', hh]
    exact step _ (hp ▸ h)
  cases m with
  | call hp =>
    show Lived s.value ((s.goto t .entered).phase t) (ran? t (.called t :: s.history))
    rw [goto_phase_self, ran?_called]
    exact .entered
  | hit hp hv => exact goes hp (goto_phase_self ..) rfl fun _ h => by cases h; exact .served hv
  | miss hp => exact goes hp (goto_phase_self ..) rfl fun _ h => by cases h; exact .locking
  | lock hp =>
    refine goes rfl (goto_phase_self ..) rfl fun _ h => ?_
    generalize s.phase t = p at hp h
    cases h <;> first | exact .looking | cases hp
  | refuse _ _ hf | refuseStore _ _ hf => cases g.usable.symm.trans hf
  | find hp hv => exact goes hp (goto_phase_self ..) rfl fun _ h => by cases h; exact .served hv
  | await hp => exact goes hp (goto_phase_self ..) rfl fun _ h => by cases h; exact .waiting
  | claim hp =>
    exact goes hp (goto_phase_self ..) (ran?_cons rfl rfl _) fun _ h => by cases h; exact .constructing
  | finish c hp =>
    show Lived s.value ((s.goto t (.storing c)).phase t) (ran? t (.ended t c :: s.history))
    rw [goto_phase_self, ran?_ended]
    exact .storing c
  | relock hp => exact goes hp (goto_phase_self ..) rfl fun _ h => by cases h; exact .recording _
  | @keep v hp =>
    have kept : s.value.getD v = v := by rw [g.unset_of_recording hp]; rfl
    refine goes hp (goto_phase_self ..) rfl fun _ h => ?_
    cases h
    show Lived (some (s.value.getD v)) (.settling (.value (s.value.getD v))) (some (.value v))
    rw [kept]
    exact .settling fun w hw => by cases hw; rfl
  | discard hp hn =>
    exact goes hp (goto_phase_self ..) rfl fun _ h => by cases h; exact .settling fun v ho => absurd ho (hn v)
  | settle hp =>
    exact goes hp (goto_phase_self ..) rfl fun _ h => by cases h with | settling hk => exact .notifying hk
  | notify hp =>
    exact goes hp (goto_phase_self ..) rfl fun _ h => by cases h with | notifying hk => exact .built hk
  | ret =>
    show Lived s.value ((s.goto t .outside).phase t) _
    rw [goto_phase_self]
    exact .outside _
  | wake hp => exact goes hp (goto_phase_self ..) rfl fun _ h => by cases h; exact .woken

theorem Step.value_mono (st : Step s s') (v : α) (h : s.value = some v) : s'.value = some v :=
  (st.value_stays h).1

theorem Reachable.lived (r : Reachable s) (t : Thread) : Lived s.value (s.phase t) (ran? t s.history) := by
  induction r with
  | initial => exact .outside _
  | step r st ih =>
    rename_i s s'
    obtain ⟨u, m⟩ | ⟨u, rfl⟩ := st.move
    · by_cases hu : u = t
      · subst u
        exact lived_move_self r.guarded ih m
      · rw [(m.ran?_of_ne hu).1]
        rcases m.phase_of_ne (Ne.symm hu) with he | ⟨hw, hw'⟩
        · rw [he]
          exact ih.mono st.value_mono
        · rw [hw] at ih
          rw [hw', ih.eq_none_of_waiting]
          exact .woken
    · show Lived s.value (s.phase t) (ran? t (.got u s.value :: s.history))
      rw [ran?_cons rfl rfl]
      exact ih

theorem Reachable.value_of_returned {v : α} (r : Reachable s) (h : .returned t (.value v) ∈ s.history) :
    s.value = some v := by
  induction r with
  | initial => cases h
  | step r st ih =>
    rename_i s s'
    by_cases old : .returned t (.value v) ∈ s.history
    · exact st.value_mono v (ih old)
    · obtain ⟨u, m⟩ | ⟨u, rfl⟩ := st.move
      · cases m with
        | ret hp =>
          rcases List.mem_cons.1 h with he | he
          · cases he
            exact (hp ▸ r.lived t).kept v rfl
          · exact absurd he old
        | _ => simp [goto, note, release, State.finish, notifyAll, old] at h
      · simp [get, note, old] at h

/-- Whoever calls when a value has been returned constructs nothing. -/
theorem Reachable.ran?_eq_none {v : α} (r : Reachable s) (h : .returned u (.value v) ∈ beforeCall t s.history) :
    ran? t s.history = none ∧ (s.phase t).claims = false := by
  induction r with
  | initial => cases h
  | step r st ih =>
    rename_i s s'
    obtain ⟨w, m⟩ | ⟨w, rfl⟩ := st.move
    · by_cases hw : w = t
      · subst w
        have unclaimed {p : Phase α} (hp : s.phase t = p) (hb : beforeCall t s'.history = beforeCall t s.history) :
            p.claims = false := hp ▸ (ih (hb ▸ h)).2
        cases m with
        | call => exact ⟨ran?_called t _, congrArg Phase.claims (goto_phase_self ..)⟩
        | claim hp hv =>
          -- The slot would have to be empty, and a value is in place.
          have hb : beforeCall t (.started t :: s.history) = beforeCall t s.history := beforeCall_cons rfl _
          have hs := r.value_of_returned ((beforeCall_suffix t s.history).subset (hb ▸ h))
          cases hv.symm.trans hs
        | finish c hp => cases unclaimed hp (beforeCall_cons rfl _)
        | relock hp => cases unclaimed hp rfl
        | keep hp => cases unclaimed hp rfl
        | @discard o hp =>
          have claims := unclaimed hp rfl
          cases o <;> cases claims
        | @settle o hp =>
          have claims := unclaimed hp rfl
          cases o <;> cases claims
        | refuseStore _ _ hf => cases r.guarded.usable.symm.trans hf
        | @ret o hp =>
          have hb : beforeCall t (.returned t o :: s.history) = beforeCall t s.history := beforeCall_cons rfl _
          exact ⟨(ran?_cons rfl rfl _).trans (ih (hb ▸ h)).1, congrArg Phase.claims (goto_phase_self ..)⟩
        | hit | miss | lock | refuse | find | await | notify | wake =>
          exact ⟨(ih h).1, congrArg Phase.claims (goto_phase_self ..)⟩
      · -- Another thread may wake it, and whoever is woken claims nothing.
        obtain ⟨hr, hb⟩ := m.ran?_of_ne hw
        rw [hb] at h
        rw [hr]
        refine ⟨(ih h).1, ?_⟩
        rcases m.phase_of_ne (Ne.symm hw) with he | ⟨-, hw'⟩
        · rw [he]; exact (ih h).2
        · rw [hw']; rfl
    · have hb : beforeCall t (.got w s.value :: s.history) = beforeCall t s.history := beforeCall_cons rfl _
      have hr : ran? t (.got w s.value :: s.history) = ran? t s.history := ran?_cons rfl rfl _
      exact hr ▸ ih (hb ▸ h)

end State

end IdentityClient.Slot
