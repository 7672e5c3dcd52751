import IdentityClient.Proofs.Slot.Guarded
import IdentityClient.Slot.Run
import Mathlib.Logic.Relation

/-!
# One construction at a time

However threads come and go, one of them at most constructs, the stage says so while it does, and the value
stays once it is there; a construction that fails or panics leaves the slot empty (`constructs_once`).
-/

namespace IdentityClient.Slot

variable {α : Type}

/-- How the construction of a thread has ended that has not released the slot. -/
def Phase.built? : Phase α → Option (Outcome α)
  | .storing o | .recording o | .settling o => some o
  | _ => none

namespace State

variable {s s' : State α} {t u : Thread}

/-- How the latest construction of thread `t` has ended. -/
def ended? (s : State α) (t : Thread) : Option (Outcome α) :=
  s.history.findSome? fun e => match e with
    | .ended u o => if u = t then some o else none
    | _ => none

theorem Move.ended?_of_ne (m : Move s t s') (h : t ≠ u) : s'.ended? u = s.ended? u := by
  cases m with
  | finish => simp [State.finish, goto, note, ended?, h]
  | _ => rfl

/-- What a thread has to record is how its construction has ended. -/
theorem Reachable.ended?_eq {o : Outcome α} (r : Reachable s) (h : (s.phase t).built? = some o) :
    s.ended? t = some o := by
  induction r with
  | initial => cases h
  | step r st ih =>
    rename_i s s'
    obtain ⟨u, m⟩ | ⟨u, rfl⟩ := st.move
    · by_cases hu : u = t
      · subst u
        have built {p : Phase α} (hp : s.phase t = p) (hq : p.built? = some o) : s.ended? t = some o :=
          ih (by rw [hp]; exact hq)
        cases m with
        | finish => simpa [State.finish, goto, note, Phase.built?, ended?] using h
        | relock hp => exact built hp (by simpa [goto, Phase.built?] using h)
        | discard hp => exact built hp (by simpa [goto, Phase.built?] using h)
        | @keep v hp =>
          have unset := r.guarded.unset_of_recording hp
          exact built hp (by simpa [goto, Phase.built?, unset] using h)
        | _ => simp [goto, note, Phase.built?] at h
      · rw [m.ended?_of_ne hu]
        rcases m.phase_of_ne (Ne.symm hu) with he | ⟨-, he⟩
        · exact ih (he ▸ h)
        · rw [he] at h; cases h
    · exact ih h

theorem value_stays {v : α} (h : s.value = some v) (run : Relation.ReflTransGen Step s s') :
    s'.value = some v ∧ s'.constructions = s.constructions := by
  induction run with
  | refl => exact ⟨h, rfl⟩
  | tail _ st ih =>
    obtain ⟨hv, hc⟩ := st.value_stays ih.1
    exact ⟨hv, hc.trans ih.2⟩

theorem Reachable.released (r : Reachable s) (st : Step s s') (hc : (s.phase t).claims)
    (hc' : (s'.phase t).claims = false) : ∃ o, s.phase t = .settling o ∧
      s' = { s.release with stage := stageAfter o }.goto t (.notifying o) := by
  obtain ⟨u, m⟩ | ⟨u, rfl⟩ := st.move
  · by_cases hu : u = t
    · subst u
      cases m with
      | settle hp => exact ⟨_, hp, rfl⟩
      | refuseStore _ _ hp => cases r.guarded.usable.symm.trans hp
      | lock hp | refuse hp => rw [Phase.claims_of_wantsLook hp] at hc; cases hc
      | claim | finish | relock | keep =>
        simp [goto, note, State.finish, Phase.claims, Phase.role, Role.claims] at hc'
      | @discard o =>
        rw [goto_phase_self] at hc'
        cases o <;> cases hc'
      | _ => simp_all [Phase.claims, Phase.role, Role.claims]
    · rcases m.phase_of_ne (Ne.symm hu) with he | ⟨hw, -⟩
      · rw [he, hc] at hc'; cases hc'
      · rw [hw] at hc; cases hc
  · exact absurd (hc.symm.trans hc') (by decide)

/-- One construction at most goes on, and the stage says whether; the value is there when the stage says so,
and for good; and a construction that fails or panics leaves the slot as it was before. -/
theorem constructs_once (r : Reachable s) :
    (∀ t u, s.phase t = .constructing → s.phase u = .constructing → t = u) ∧
    (∀ t u, (s.phase t).claims → (s.phase u).claims → t = u) ∧
    (s.stage = .inProgress ↔ ∃ t, (s.phase t).claims) ∧
    (s.owner = none → (s.value.isSome ↔ s.stage = .ready)) ∧
    (∀ v s', s.value = some v → Relation.ReflTransGen Step s s' →
      s'.value = some v ∧ s'.constructions = s.constructions) ∧
    ∀ t s', Step s s' → (s.phase t).claims → (s'.phase t).claims = false → ∃ o, s.ended? t = some o ∧
      (∀ v, o = .value v → s'.stage = .ready ∧ s'.value = some v) ∧
      ((∀ v, o ≠ .value v) → s'.stage = .empty ∧ s'.value = none) := by
  have g := r.guarded
  refine ⟨fun t u ht hu => ?_, g.claim, g.stage, fun ho => ⟨fun hv => ?_, fun hs => ?_⟩, fun v s' => value_stays,
    fun t s' st hc hc' => ?_⟩
  · exact g.claim t u (by rw [ht]; rfl) (by rw [hu]; rfl)
  · obtain ⟨v, hv⟩ := Option.isSome_iff_exists.1 hv
    rcases g.set v hv with hs | ⟨t, ht⟩
    · exact hs
    · cases ho.symm.trans ((g.owner t).2 (by rw [ht]; rfl))
  · obtain ⟨v, hv⟩ := g.ready hs
    rw [hv]; rfl
  · obtain ⟨o, hp, rfl⟩ := r.released st hc hc'
    refine ⟨o, r.ended?_eq (by rw [hp]; rfl), ?_, fun hn => ?_⟩
    · rintro v rfl
      exact ⟨rfl, g.settled t v (by rw [hp]; rfl)⟩
    · have unset : s.value = none := g.value_eq_none hc fun v hv => by
        rw [hp] at hv
        cases o with
        | value v => exact hn v rfl
        | failed | panicked => cases hv
      cases o with
      | value v => exact absurd rfl (hn v)
      | failed | panicked => exact ⟨rfl, unset⟩

/-- The constructor of thread 0 has panicked, and the thread releases the slot. -/
theorem constructs_once_after_panic :
    let s : State Nat := runUntil (· == .settling .panicked) 0 .panicked callSteps
      (((State.initial "").goto 0 .entered).note (.called 0))
    s.Reachable ∧ s.stage = .inProgress ∧
      ∃ s', s.next 0 .panicked = some s' ∧ s'.stage = .empty ∧ s'.value = none := by
  intro s
  have r : s.Reachable := .runUntil _ 0 .panicked _ (.step (.initial "") (.call 0 rfl))
  have released := (constructs_once r).2.2.2.2.2 0 _ (.next 0 .panicked rfl) rfl rfl
  obtain ⟨o, ho, -, unset⟩ := released
  obtain rfl : .panicked = o := Option.some.inj ((show s.ended? 0 = some .panicked from rfl).symm.trans ho)
  exact ⟨r, (constructs_once r).2.2.1.2 ⟨0, rfl⟩, _, rfl, unset nofun⟩

end State

end IdentityClient.Slot
