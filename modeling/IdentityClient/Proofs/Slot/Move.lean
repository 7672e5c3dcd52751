import IdentityClient.Slot.State

/-!
# What one step of a slot can do

`Move s t s'`: thread `t` takes the slot from `s` to `s'`, with what it finds and all that it changes. A step of
the slot is such a move or a look at the value from outside a call (`Step.move`). The value, once it is there,
stays, and nobody starts a construction again (`Step.value_stays`).
-/

namespace IdentityClient.Slot

/-- The thread wants the lock to look at value and stage. -/
def Phase.wantsLook {α : Type} : Phase α → Bool
  | .locking | .woken => true
  | _ => false

namespace State

variable {α : Type}

inductive Move (s : State α) (t : Thread) : State α → Prop
  | call : s.phase t = .outside → Move s t ((s.goto t .entered).note (.called t))
  | hit {v : α} : s.phase t = .entered → s.value = some v → Move s t (s.goto t (.leaving (.value v)))
  | miss : s.phase t = .entered → s.value = none → Move s t (s.goto t .locking)
  | lock : (s.phase t).wantsLook → s.owner = none → s.poisoned = false →
      Move s t ({ s with owner := some t }.goto t .looking)
  | refuse : (s.phase t).wantsLook → s.owner = none → s.poisoned = true →
      Move s t (s.goto t (.leaving s.refusal))
  | find {v : α} : s.phase t = .looking → s.value = some v →
      Move s t (s.release.goto t (.leaving (.value v)))
  | await : s.phase t = .looking → s.value = none → s.stage = .inProgress →
      Move s t (s.release.goto t .waiting)
  | claim : s.phase t = .looking → s.value = none → s.stage ≠ .inProgress →
      Move s t (({ s.release with stage := .inProgress }.goto t .constructing).note (.started t))
  | finish (c : Outcome α) : s.phase t = .constructing → Move s t (s.finish t c)
  | relock {o : Outcome α} : s.phase t = .storing o → s.owner = none → s.poisoned = false →
      Move s t ({ s with owner := some t }.goto t (.recording o))
  | refuseStore {o : Outcome α} : s.phase t = .storing o → s.owner = none → s.poisoned = true →
      Move s t (s.goto t (.notifying (if o.isPanic then o else s.refusal)))
  | keep {v : α} : s.phase t = .recording (.value v) →
      Move s t ({ s with value := some (s.value.getD v) }.goto t (.settling (.value (s.value.getD v))))
  | discard {o : Outcome α} : s.phase t = .recording o → (∀ v, o ≠ .value v) → Move s t (s.goto t (.settling o))
  | settle {o : Outcome α} : s.phase t = .settling o →
      Move s t ({ s.release with stage := stageAfter o }.goto t (.notifying o))
  | notify {o : Outcome α} : s.phase t = .notifying o → Move s t (s.notifyAll.goto t (.leaving o))
  | ret {o : Outcome α} : s.phase t = .leaving o → Move s t ((s.goto t .outside).note (.returned t o))
  | wake : s.phase t = .waiting → Move s t (s.goto t .woken)

variable {s s' : State α} {t u : Thread} {c : Outcome α}

theorem acquire_eq_some {p refused : Phase α} (h : s.acquire t p refused = some s') :
    s.owner = none ∧
      ((s.poisoned = false ∧ s' = { s with owner := some t }.goto t p) ∨
        (s.poisoned = true ∧ s' = s.goto t refused)) := by
  unfold acquire at h
  split at h
  · cases hp : s.poisoned <;> simp [hp] at h
    · exact ⟨‹_›, .inl ⟨rfl, by rw [← h]⟩⟩
    · exact ⟨‹_›, .inr ⟨rfl, h.symm⟩⟩
  · cases h

theorem Move.of_next (h : s.next t c = some s') : Move s t s' := by
  unfold next at h
  split at h
  case h_1 | h_5 => cases h
  case h_2 hp =>
    split at h
    · cases h; exact .hit hp ‹_›
    · cases h; exact .miss hp ‹_›
  case h_3 hp | h_6 hp =>
    obtain ⟨ho, ⟨hf, rfl⟩ | ⟨hf, rfl⟩⟩ := acquire_eq_some h
    · exact .lock (by rw [hp]; rfl) ho hf
    · exact .refuse (by rw [hp]; rfl) ho hf
  case h_4 hp =>
    cases h
    unfold look
    split
    · exact .find hp ‹_›
    · exact .await hp ‹_› ‹_›
    · exact .claim hp ‹_› ‹_›
  case h_7 hp => cases h; exact .finish c hp
  case h_8 o hp =>
    obtain ⟨ho, ⟨hf, rfl⟩ | ⟨hf, rfl⟩⟩ := acquire_eq_some h
    · exact .relock hp ho hf
    · exact .refuseStore hp ho hf
  case h_9 o hp =>
    cases h
    unfold record
    split
    · exact .keep hp
    · exact .discard hp ‹_›
  case h_10 o hp => cases h; exact .settle hp
  case h_11 o hp => cases h; exact .notify hp
  case h_12 o hp => cases h; exact .ret hp

theorem Move.of_call (h : s.call t = some s') : Move s t s' := by
  unfold State.call at h
  split at h
  · cases h; exact .call ‹_›
  · cases h

theorem Move.of_wake (h : s.wake t = some s') : Move s t s' := by
  unfold State.wake at h
  split at h
  · cases h; exact .wake ‹_›
  · cases h

theorem Step.move (h : Step s s') : (∃ t, Move s t s') ∨ ∃ t, s' = s.get t := by
  cases h with
  | call t h => exact .inl ⟨t, .of_call h⟩
  | next t c h => exact .inl ⟨t, .of_next h⟩
  | wake t h => exact .inl ⟨t, .of_wake h⟩
  | get t => exact .inr ⟨t, rfl⟩

/-- A move of one thread leaves the others where they are, but for those it notifies. -/
theorem Move.phase_of_ne (m : Move s t s') (h : u ≠ t) :
    s'.phase u = s.phase u ∨ (s.phase u = .waiting ∧ s'.phase u = .woken) := by
  cases m with
  | notify =>
    rw [goto_phase_of_ne _ _ h]
    cases hp : s.phase u <;> simp [notifyAll, hp]
  | _ => exact .inl (by simp [goto, note, release, State.finish, h])

/-- What a thread keeps that moves, all keep, unless being notified makes a difference to it. -/
theorem Move.same {β : Type} (m : Move s t s') (f : Phase α → β) (hw : f .woken = f .waiting) {p p' : Phase α}
    (hp : s.phase t = p) (hp' : s'.phase t = p') (h : f p' = f p) (u : Thread) : f (s'.phase u) = f (s.phase u) := by
  by_cases hu : u = t
  · rw [hu, hp, hp', h]
  · rcases m.phase_of_ne hu with he | ⟨hq, hq'⟩
    · rw [he]
    · rw [hq, hq', hw]

/-- What is put in place stays in place, and no construction starts any more. -/
theorem Step.value_stays {v : α} (st : Step s s') (h : s.value = some v) :
    s'.value = some v ∧ s'.constructions = s.constructions := by
  obtain ⟨t, m⟩ | ⟨t, rfl⟩ := st.move
  · cases m with
    | claim _ hn => cases hn.symm.trans h
    | keep => exact ⟨by simp [goto, h], rfl⟩
    | _ => exact ⟨h, rfl⟩
  · exact ⟨h, rfl⟩

end State

end IdentityClient.Slot
