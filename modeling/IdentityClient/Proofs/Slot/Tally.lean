import IdentityClient.Proofs.Slot.History

/-!
# Counting constructions

All constructions that have been started have ended but for one that goes on (`Numbered`), and of those that have
ended all but one at most have failed or panicked (`length_endings`): the latest is the only one that can have given
a value.
-/

namespace IdentityClient.Slot

variable {α : Type}

/-- The value of the first construction that has given one. -/
def firstValue? (h : List (Event α)) : Option α := (endings h).reverse.findSome? fun x => x.2.value?

/-- How many constructions have failed or panicked. -/
def failures (h : List (Event α)) : Nat := (endings h).countP fun x => x.2.value?.isNone

variable {h : List (Event α)}

theorem value?_eq_none_of_mem_tail {x : Thread × Outcome α} (tail : ∀ t v, (t, .value v) ∉ (endings h).tail)
    (hx : x ∈ (endings h).tail) : x.2.value? = none :=
  Outcome.value?_eq_none.2 fun v hv => tail x.1 v (hv ▸ hx)

theorem firstValue?_eq_head (tail : ∀ t v, (t, .value v) ∉ (endings h).tail) :
    firstValue? h = (endings h).head?.bind fun x => x.2.value? := by
  cases he : endings h with
  | nil => rw [firstValue?, he]; rfl
  | cons x l =>
    have earlier : l.reverse.findSome? (fun x => x.2.value?) = none := by
      refine List.findSome?_eq_none_iff.2 fun y hy => value?_eq_none_of_mem_tail tail ?_
      rw [he]
      exact List.mem_reverse.1 hy
    rw [firstValue?, he, List.reverse_cons, List.findSome?_append, earlier]
    cases hx : x.2.value? <;> simp [hx]

/-- As many constructions have ended as failed, and one if there is a value. -/
theorem length_endings (tail : ∀ t v, (t, .value v) ∉ (endings h).tail) :
    (endings h).length = failures h + if (firstValue? h).isSome then 1 else 0 := by
  rw [firstValue?_eq_head tail]
  cases he : endings h with
  | nil => simp [failures, he]
  | cons x l =>
    have earlier : (l.countP fun x => x.2.value?.isNone) = l.length := by
      refine List.countP_eq_length.2 fun y hy => Option.isNone_iff_eq_none.2 (value?_eq_none_of_mem_tail tail ?_)
      rw [he]
      exact hy
    rw [failures, he, List.countP_cons, earlier]
    cases hx : x.2.value? <;> simp [hx]

namespace State

variable {s s' : State α} {t : Thread} {v : α}

/-- As many constructions have been started as ended, and one if a constructor runs. -/
structure Numbered (s : State α) : Prop where
  idle : (∀ t, s.phase t ≠ .constructing) → s.constructions = (endings s.history).length
  running : ∀ t, s.phase t = .constructing → s.constructions = (endings s.history).length + 1

theorem Numbered.congr (h : Numbered s) (hc : s'.constructions = s.constructions)
    (he : endings s'.history = endings s.history) (hp : ∀ t, s'.phase t = .constructing ↔ s.phase t = .constructing) :
    Numbered s' := by
  refine ⟨fun idle => ?_, fun t ht => ?_⟩
  · rw [hc, he]
    exact h.idle fun t ht => idle t ((hp t).2 ht)
  · rw [hc, he]
    exact h.running t ((hp t).1 ht)

theorem Numbered.move (h : Numbered s) (g : Guarded s) (m : Move s t s') : Numbered s' := by
  have claims {u : Thread} (hu : s.phase u = .constructing) : (s.phase u).claims := by rw [hu]; rfl
  have same {p p' : Phase α} (hp : s.phase t = p) (hp' : s'.phase t = p') (h : p ≠ .constructing)
      (h' : p' ≠ .constructing) (u : Thread) : s'.phase u = .constructing ↔ s.phase u = .constructing :=
    .of_eq (m.same (· = .constructing) (propext ⟨nofun, nofun⟩) hp hp' (propext (iff_of_false h' h)) u)
  cases m with
  | claim hp hv hs =>
    have idle : ∀ u, s.phase u ≠ .constructing := fun u hu => hs (g.stage.2 ⟨u, claims hu⟩)
    refine ⟨fun idle' => absurd (goto_phase_self ..) (idle' t), fun _ _ => ?_⟩
    exact congrArg (· + 1) (h.idle idle)
  | finish c hp =>
    refine ⟨fun _ => h.running t hp, fun u hu => ?_⟩
    by_cases hut : u = t
    · rw [hut] at hu
      cases (goto_phase_self ..).symm.trans hu
    · have hu' : s.phase u = .constructing := (goto_phase_of_ne _ _ hut).symm.trans hu
      exact absurd (g.claim u t (claims hu') (claims hp)) hut
  | lock hp | refuse hp =>
    refine h.congr rfl rfl (same rfl (goto_phase_self ..) (fun he => ?_) nofun)
    rw [he] at hp
    cases hp
  | call hp | hit hp | miss hp | find hp | await hp | relock hp | refuseStore hp | keep hp | discard hp
  | settle hp | notify hp | ret hp | wake hp => exact h.congr rfl rfl (same hp (goto_phase_self ..) nofun nofun)

theorem Reachable.numbered (r : Reachable s) : Numbered s := by
  induction r with
  | initial => exact ⟨fun _ => rfl, nofun⟩
  | step r st ih =>
    obtain ⟨t, m⟩ | ⟨t, rfl⟩ := st.move
    · exact ih.move r.guarded m
    · exact ih.congr rfl rfl fun _ => .rfl

theorem Reachable.firstValue?_eq (r : Reachable s) (h : s.value = some v) : firstValue? s.history = some v := by
  obtain ⟨t, head⟩ := r.told.head v h
  rw [firstValue?_eq_head r.told.tail, head]
  rfl

end State

end IdentityClient.Slot
