import IdentityClient.Proofs.Slot.Move

/-!
# Lock, stage and value

A thread claims the slot when it sets the stage to in progress, and releases it when it sets the stage again
(`Phase.claims`). `Guarded` ties the stage to the one thread that claims the slot, the lock to the thread that
has it, and the value to the stage: it is put in place under the lock just before the claim is released. Every
step keeps it (`Reachable.guarded`), whether a construction gives a value, fails or panics.
-/

namespace IdentityClient.Slot

variable {α : Type}

/-- What a thread has to do with lock, stage and value. -/
inductive Role (α : Type) where
  | apart
  | looking
  | building
  | recording
  /-- Its value is in place, the stage is not. -/
  | stored (v : α)

/-- Has the lock. -/
def Role.holds : Role α → Bool
  | .looking | .recording | .stored _ => true
  | .apart | .building => false

/-- Has claimed the slot and not released it. -/
def Role.claims : Role α → Bool
  | .building | .recording | .stored _ => true
  | .apart | .looking => false

def Phase.role : Phase α → Role α
  | .outside | .entered | .locking | .waiting | .woken | .notifying _ | .leaving _ => .apart
  | .looking => .looking
  | .constructing | .storing _ => .building
  | .settling (.value v) => .stored v
  | .recording _ | .settling _ => .recording

/-- Is between claiming the slot and releasing it. -/
def Phase.claims (p : Phase α) : Bool := p.role.claims

theorem Phase.claims_of_wantsLook {p : Phase α} (h : p.wantsLook) : p.claims = false := by
  cases p <;> first | rfl | cases h

namespace State

variable {s s' : State α} {t u : Thread} {p : Phase α} {v : α}

structure Guarded (s : State α) : Prop where
  usable : s.poisoned = false
  owner : ∀ t, s.owner = some t ↔ (s.phase t).role.holds = true
  claim : ∀ t u, (s.phase t).claims → (s.phase u).claims → t = u
  stage : s.stage = .inProgress ↔ ∃ t, (s.phase t).claims
  ready : s.stage = .ready → ∃ v, s.value = some v
  set : ∀ v, s.value = some v → s.stage = .ready ∨ ∃ t, (s.phase t).role = .stored v
  settled : ∀ t v, (s.phase t).role = .stored v → s.value = some v

/-- What a thread keeps in its new phase, all keep. -/
theorem goto_same {β : Type} (f : Phase α → β) (h : f p = f (s.phase t)) (u : Thread) :
    f ((s.goto t p).phase u) = f (s.phase u) := by
  by_cases hu : u = t
  · rw [hu, goto_phase_self]; exact h
  · rw [goto_phase_of_ne _ _ hu]

theorem goto_role (s : State α) (t u : Thread) (p : Phase α) :
    ((s.goto t p).phase u).role = if u = t then p.role else (s.phase u).role := by
  by_cases h : u = t <;> simp [goto, h]

namespace Guarded

/-- While a thread claims the slot and its value is not in place, there is none. -/
theorem value_eq_none (g : Guarded s) (hc : (s.phase t).claims) (hr : ∀ v, (s.phase t).role ≠ .stored v) :
    s.value = none := by
  cases hv : s.value with
  | none => rfl
  | some v =>
    have progress : s.stage = .inProgress := g.stage.2 ⟨t, hc⟩
    rcases g.set v hv with hs | ⟨u, hu⟩
    · cases progress.symm.trans hs
    · have : u = t := g.claim u t (by rw [Phase.claims, hu]; rfl) hc
      exact absurd (this ▸ hu) (hr v)

/-- The same, of a thread whose phase is known. -/
theorem unset (g : Guarded s) (hp : s.phase t = p) (hc : p.claims) (hr : ∀ v, p.role ≠ .stored v) : s.value = none :=
  g.value_eq_none (hp ▸ hc) (hp ▸ hr)

theorem unset_of_recording (g : Guarded s) (hp : s.phase t = .recording o) : s.value = none := g.unset hp rfl nofun

theorem congr (g : Guarded s) (hp : s'.poisoned = s.poisoned) (ho : s'.owner = s.owner)
    (hs : s'.stage = s.stage) (hv : s'.value = s.value)
    (hr : ∀ u, (s'.phase u).role = (s.phase u).role) : Guarded s' := by
  have hc : ∀ u, (s'.phase u).claims = (s.phase u).claims := fun u => congrArg Role.claims (hr u)
  refine ⟨hp.trans g.usable, fun t => ?_, fun t u => ?_, ?_, ?_, fun v => ?_, fun t v => ?_⟩
  · rw [ho, hr]; exact g.owner t
  · rw [hc, hc]; exact g.claim t u
  · simp only [hs, hc]; exact g.stage
  · rw [hs, hv]; exact g.ready
  · simp only [hs, hv, hr]; exact g.set v
  · rw [hr, hv]; exact g.settled t v

theorem lock (g : Guarded s) (ho : s.owner = none) (hp : p.role.holds = true) (hc : p.claims = (s.phase t).claims)
    (hr : ∀ v, p.role ≠ .stored v) : Guarded ({ s with owner := some t }.goto t p) := by
  have free : ∀ u, (s.phase u).role.holds = false := fun u => by
    cases hu : (s.phase u).role.holds with
    | false => rfl
    | true => cases ho.symm.trans ((g.owner u).2 hu)
  have claims : ∀ u, (({ s with owner := some t }.goto t p).phase u).claims = (s.phase u).claims :=
    goto_same Phase.claims hc
  have apart : ∀ u v, (s.phase u).role ≠ .stored v := fun u v hu => by
    have := free u
    rw [hu] at this
    cases this
  refine ⟨g.usable, fun u => ?_, fun t u => ?_, ?_, g.ready, fun v hv => ?_, fun u v hu => ?_⟩
  · rw [goto_role]
    by_cases h : u = t
    · simp [goto, h, hp]
    · simp [goto, h, free u, Ne.symm h]
  · rw [claims, claims]; exact g.claim t u
  · simp only [claims]; exact g.stage
  · rcases g.set v hv with hs | ⟨u, hu⟩
    · exact .inl hs
    · exact absurd hu (apart u v)
  · rw [goto_role] at hu
    by_cases h : u = t
    · rw [if_pos h] at hu; exact absurd hu (hr v)
    · rw [if_neg h] at hu; exact absurd hu (apart u v)

theorem holds_goto (g : Guarded s) (ht : (s.phase t).role.holds = true) (hp : p.role.holds = false) (u : Thread) :
    ((s.goto t p).phase u).role.holds = false := by
  rw [goto_role]
  by_cases h : u = t
  · rw [if_pos h]; exact hp
  · rw [if_neg h]
    cases hu : (s.phase u).role.holds with
    | false => rfl
    | true => exact absurd (Option.some.inj (((g.owner u).2 hu).symm.trans ((g.owner t).2 ht))) h

/-- A thread that has looked gives the lock back and leaves all as it is. -/
theorem unlock (g : Guarded s) (hl : s.phase t = .looking) (hp : p.role = .apart) :
    Guarded (s.release.goto t p) := by
  have free := g.holds_goto (p := p) (by rw [hl]; rfl) (by rw [hp]; rfl)
  have same : ∀ u v, ((s.goto t p).phase u).role = .stored v ↔ (s.phase u).role = .stored v := by
    intro u v
    rw [goto_role]
    by_cases h : u = t
    · rw [if_pos h, hp, h, hl]
      exact ⟨nofun, nofun⟩
    · rw [if_neg h]
  have claims : ∀ u, ((s.goto t p).phase u).claims = (s.phase u).claims :=
    goto_same Phase.claims (by rw [Phase.claims, hp, hl]; rfl)
  refine ⟨g.usable, fun u => ⟨nofun, fun hu => ?_⟩, fun t' u => ?_, ?_, g.ready, fun v hv => ?_,
    fun u v hu => ?_⟩
  · exact absurd (hu.symm.trans (free u)) nofun
  · show ((s.goto t p).phase t').claims → ((s.goto t p).phase u).claims → t' = u
    rw [claims, claims]; exact g.claim t' u
  · show s.stage = .inProgress ↔ ∃ u, ((s.goto t p).phase u).claims
    simp only [claims]; exact g.stage
  · exact (g.set v hv).imp_right fun ⟨u, hu⟩ => ⟨u, (same u v).2 hu⟩
  · exact g.settled u v ((same u v).1 hu)

/-- A thread claims a slot that nobody claims. -/
theorem start (g : Guarded s) (hl : s.phase t = .looking) (hv : s.value = none) (hs : s.stage ≠ .inProgress) :
    Guarded ({ s.release with stage := .inProgress }.goto t .constructing) := by
  have free := g.holds_goto (p := .constructing) (by rw [hl]; rfl) rfl
  have unclaimed : ∀ u, ¬ (s.phase u).claims := fun u hu => hs (g.stage.2 ⟨u, hu⟩)
  have mine : ∀ u, ((s.goto t .constructing).phase u).claims → u = t := by
    intro u hu
    by_cases h : u = t
    · exact h
    · rw [goto_phase_of_ne _ _ h] at hu
      exact absurd hu (unclaimed u)
  refine ⟨g.usable, fun u => ⟨nofun, fun hu => ?_⟩, fun t' u ht hu => ?_, ⟨fun _ => ⟨t, ?_⟩, fun _ => rfl⟩,
    nofun, fun v h => ?_, fun u v hu => ?_⟩
  · exact absurd (hu.symm.trans (free u)) nofun
  · rw [mine t' ht, mine u hu]
  · rw [goto_phase_self]; rfl
  · cases hv.symm.trans h
  · obtain rfl := mine u (by rw [Phase.claims]; exact congrArg Role.claims hu)
    rw [goto_phase_self] at hu
    cases hu

/-- The thread that claims the slot puts its value in place. -/
theorem keep (g : Guarded s) {o : Outcome α} (hr : s.phase t = .recording o) :
    Guarded ({ s with value := some v }.goto t (.settling (.value v))) := by
  have claims : ∀ u, ((s.goto t (.settling (.value v))).phase u).claims = (s.phase u).claims :=
    goto_same Phase.claims (by rw [hr]; rfl)
  have holds : ∀ u, ((s.goto t (.settling (.value v))).phase u).role.holds = (s.phase u).role.holds :=
    goto_same (fun q => q.role.holds) (by rw [hr]; rfl)
  refine ⟨g.usable, fun u => ?_, fun t' u => ?_, ?_, fun _ => ⟨v, rfl⟩, fun w hw => .inr ⟨t, ?_⟩,
    fun u w hu => ?_⟩
  · show s.owner = some u ↔ ((s.goto t (.settling (.value v))).phase u).role.holds = true
    rw [holds]; exact g.owner u
  · show ((s.goto t (.settling (.value v))).phase t').claims →
      ((s.goto t (.settling (.value v))).phase u).claims → t' = u
    rw [claims, claims]; exact g.claim t' u
  · show s.stage = .inProgress ↔ ∃ u, ((s.goto t (.settling (.value v))).phase u).claims
    simp only [claims]; exact g.stage
  · obtain rfl : v = w := Option.some.inj hw
    rw [goto_phase_self]; rfl
  · have hc : (s.phase u).claims := by
      rw [← claims u, Phase.claims]; exact congrArg Role.claims hu
    obtain rfl := g.claim u t hc (by rw [hr]; rfl)
    rw [goto_phase_self] at hu
    cases hu
    rfl

/-- The thread that claims the slot releases it. -/
theorem settle (g : Guarded s) {o : Outcome α} (hr : s.phase t = .settling o) :
    Guarded ({ s.release with stage := stageAfter o }.goto t (.notifying o)) := by
  have ht : (s.phase t).claims := by rw [hr]; cases o <;> rfl
  have progress : s.stage = .inProgress := g.stage.2 ⟨t, ht⟩
  have free := g.holds_goto (p := .notifying o) (by rw [hr]; cases o <;> rfl) rfl
  have unclaimed : ∀ u, ¬ ((s.goto t (.notifying o)).phase u).claims := by
    intro u hu
    by_cases h : u = t
    · rw [h, goto_phase_self] at hu
      cases hu
    · rw [goto_phase_of_ne _ _ h] at hu
      exact h (g.claim u t hu ht)
  refine ⟨g.usable, fun u => ⟨nofun, fun hu => ?_⟩, fun u _ hu => absurd hu (unclaimed u), ⟨fun hs => ?_, ?_⟩,
    fun hs => ?_, fun v hv => .inl ?_, fun u v hu => ?_⟩
  · exact absurd (hu.symm.trans (free u)) nofun
  · cases o <;> cases hs
  · rintro ⟨u, hu⟩
    exact absurd hu (unclaimed u)
  · cases o with
    | value v => exact ⟨v, g.settled t v (by rw [hr]; rfl)⟩
    | failed | panicked => cases hs
  · rcases g.set v hv with hs | ⟨u, hu⟩
    · cases progress.symm.trans hs
    · obtain rfl := g.claim u t (by rw [Phase.claims, hu]; rfl) ht
      rw [hr] at hu
      cases o with
      | value => rfl
      | failed | panicked => cases hu
  · exact absurd (by rw [Phase.claims]; exact congrArg Role.claims hu) (unclaimed u)

theorem move (g : Guarded s) (m : Move s t s') : Guarded s' := by
  have others {p : Phase α} (hp : s'.phase t = p) (h : p.role = (s.phase t).role) :
      ∀ u, (s'.phase u).role = (s.phase u).role := m.same Phase.role rfl rfl hp h
  cases m with
  | lock hp ho => exact g.lock ho rfl (by rw [Phase.claims_of_wantsLook hp]; rfl) nofun
  | relock hp ho => exact g.lock ho rfl (by rw [hp]; rfl) nofun
  | refuse _ _ hp | refuseStore _ _ hp => cases g.usable.symm.trans hp
  | find hp => exact g.unlock hp rfl
  | await hp => exact g.unlock hp rfl
  | claim hp hv hs => exact (g.start hp hv hs).congr rfl rfl rfl rfl fun _ => rfl
  | keep hp => exact g.keep hp
  | settle hp => exact g.settle hp
  | finish c hp =>
    have outside : s.owner ≠ some t := fun ho => by
      have := (g.owner t).1 ho
      rw [hp] at this
      cases this
    refine g.congr ?_ rfl rfl rfl (others (goto_phase_self ..) (by rw [hp]; rfl))
    simp [State.finish, goto, note, outside]
  | @discard o hp hn =>
    refine g.congr rfl rfl rfl rfl (others (goto_phase_self ..) ?_)
    rw [hp]
    cases o with
    | value v => exact absurd rfl (hn v)
    | failed | panicked => rfl
  | call hp | hit hp | miss hp | notify hp | ret hp | wake hp =>
    exact g.congr rfl rfl rfl rfl (others (goto_phase_self ..) (by rw [hp]; rfl))

end Guarded

theorem Reachable.guarded (r : Reachable s) : Guarded s := by
  induction r with
  | initial =>
    refine ⟨rfl, fun _ => ⟨nofun, nofun⟩, nofun, ⟨nofun, ?_⟩, nofun, nofun, nofun⟩
    rintro ⟨_, h⟩
    cases h
  | step _ st ih =>
    obtain ⟨t, m⟩ | ⟨t, rfl⟩ := st.move
    · exact ih.move m
    · exact ih.congr rfl rfl rfl rfl fun _ => rfl

end State

end IdentityClient.Slot
