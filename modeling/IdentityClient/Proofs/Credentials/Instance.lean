import IdentityClient.Proofs.Credentials.Plaintext

/-!
# Who has which instance

No two services hold one instance, and an instance that a call has taken is held by no service and taken by no other
call (`State.Apart`). So an instance serves one request at most: only the call that took it sends on it, and that once
(`Run.used_nodup`).
-/

namespace IdentityClient.Credentials

variable {ρ : Type}

/-- The instance that a call has taken and sent nothing on. -/
def Phase.taken? : Phase ρ → Option InstanceId
  | .created i _ | .fetching i _ => some i
  | .outside | .sent _ | .done => none

/-- The instance that an event is about. -/
def Event.on? : Event ρ → Option InstanceId
  | .ready _ i | .called _ _ i _ | .sent _ i _ _ => some i
  | .asked _ | .ended _ _ | .dropped _ => none

/-- The instance that a request is sent on. -/
def Event.used? : Event ρ → Option InstanceId
  | .sent _ i _ _ => some i
  | _ => none

variable {cr : CallCredentials} {s s' : State ρ} {a : Action ρ} {as : List (Action ρ)} {es : List (Event ρ)}
  {c d : CallId} {v : ServiceId} {i : InstanceId} {r : Request} {p : Phase ρ} {w : Bool} {e : Event ρ}

theorem Fetch.called {m : Except CredentialError (Option HeaderValue)} (f : Fetch cr c v i r m as es) :
    .called c v i r ∈ es := by
  cases f <;> simp

theorem Life.of_taken (l : Life cr c p as es) (h : p.taken? = some i) :
    (∃ v r, .called c v i r ∈ es) ∧ ∀ j r' w, .sent c j r' w ∉ es := by
  cases l with
  | outside | sent | rejected | answered | dropped => cases h
  | created v i r | fetching v i r =>
    cases h
    exact ⟨⟨v, r, by simp⟩, by simp⟩

namespace State

/-- Call `c` took instance `i`. -/
def Took (s : State ρ) (c : CallId) (i : InstanceId) : Prop := ∃ v r, .called c v i r ∈ s.history

/-- The instances that requests have been sent on, the latest first. -/
def used (s : State ρ) : List InstanceId := s.history.filterMap Event.used?

theorem mem_used : i ∈ s.used ↔ ∃ c r w, .sent c i r w ∈ s.history := by
  unfold used
  rw [List.mem_filterMap]
  constructor
  · rintro ⟨e, he, hi⟩
    cases e with
    | sent c j r w =>
      cases hi
      exact ⟨c, r, w, he⟩
    | ready | called | asked | ended | dropped => cases hi
  · rintro ⟨c, r, w, h⟩
    exact ⟨_, h, rfl⟩

/-- Each service has an instance of its own, and so has each call that has been made. -/
structure Apart (s : State ρ) : Prop where
  known : ∀ v < s.services, s.holds v < s.instances
  distinct : ∀ v < s.services, ∀ w < s.services, s.holds v = s.holds w → v = w
  seen : ∀ e ∈ s.history, ∀ i, e.on? = some i → i < s.instances
  ready_known : ∀ i, s.isReady i = true → i < s.instances
  taken_free : ∀ c i, s.Took c i → ∀ v < s.services, s.holds v ≠ i
  taken_once : ∀ c d i, s.Took c i → s.Took d i → c = d

namespace Apart

theorem initial (cr : CallCredentials) : (State.initial (ρ := ρ) cr).Apart where
  known := fun _ _ => Nat.one_pos
  distinct := by
    intro v hv w hw _
    exact (Nat.lt_one_iff.1 hv).trans (Nat.lt_one_iff.1 hw).symm
  seen := nofun
  ready_known := nofun
  taken_free := nofun
  taken_once := nofun

theorem took_lt (h : s.Apart) (took : s.Took c i) : i < s.instances := by
  obtain ⟨v, r, mem⟩ := took
  exact h.seen _ mem i rfl

theorem goto (h : s.Apart) (c : CallId) (p : Phase ρ) : (s.goto c p).Apart :=
  ⟨h.known, h.distinct, h.seen, h.ready_known, h.taken_free, h.taken_once⟩

theorem write (h : s.Apart) (rec : LogRecord) : (s.write rec).Apart :=
  ⟨h.known, h.distinct, h.seen, h.ready_known, h.taken_free, h.taken_once⟩

theorem mark (h : s.Apart) (i : InstanceId) (on : Bool) (hi : on = true → i < s.instances) : (s.mark i on).Apart := by
  refine ⟨h.known, h.distinct, h.seen, ?_, h.taken_free, h.taken_once⟩
  intro j hj
  simp only [State.mark] at hj
  split at hj
  · rename_i hji
    exact hji ▸ hi hj
  · exact h.ready_known j hj

/-- A service, an old one or the next, comes to hold a fresh instance. -/
theorem refresh (h : s.Apart) {n : Nat} (v : ServiceId) (old : ∀ w < n, w ≠ v → w < s.services) :
    ({ s with services := n }.refresh v).Apart := by
  have holds_self : ({ s with services := n }.refresh v).holds v = s.instances := if_pos rfl
  have holds_of_ne {w : ServiceId} (hw : w ≠ v) : ({ s with services := n }.refresh v).holds w = s.holds w := if_neg hw
  have old_lt {w : ServiceId} (hw : w < n) (hne : w ≠ v) : s.holds w < s.instances := h.known w (old w hw hne)
  refine ⟨?_, ?_, ?_, ?_, ?_, h.taken_once⟩
  · intro w hw
    by_cases hne : w = v
    · rw [hne, holds_self]
      exact Nat.lt_succ_self _
    · rw [holds_of_ne hne]
      exact Nat.lt_succ_of_lt (old_lt hw hne)
  · intro w hw u hu heq
    by_cases hwv : w = v <;> by_cases huv : u = v
    · rw [hwv, huv]
    · rw [hwv, holds_self, holds_of_ne huv] at heq
      exact absurd heq (Nat.ne_of_gt (old_lt hu huv))
    · rw [huv, holds_self, holds_of_ne hwv] at heq
      exact absurd heq (Nat.ne_of_lt (old_lt hw hwv))
    · rw [holds_of_ne hwv, holds_of_ne huv] at heq
      exact h.distinct w (old w hw hwv) u (old u hu huv) heq
  · intro e he i hi
    exact Nat.lt_succ_of_lt (h.seen e he i hi)
  · intro i hi
    exact Nat.lt_succ_of_lt (h.ready_known i hi)
  · intro c i took w hw
    by_cases hne : w = v
    · rw [hne, holds_self]
      exact Nat.ne_of_gt (h.took_lt took)
    · rw [holds_of_ne hne]
      exact h.taken_free c i took w (old w hw hne)

theorem took_note (h : ∀ c v i r, e ≠ .called c v i r) : (s.note e).Took c i ↔ s.Took c i := by
  constructor
  · rintro ⟨v, r, mem⟩
    rcases List.mem_cons.1 mem with rfl | mem
    · exact absurd rfl (h c v i r)
    · exact ⟨v, r, mem⟩
  · rintro ⟨v, r, mem⟩
    exact ⟨v, r, List.mem_cons_of_mem _ mem⟩

theorem note (h : s.Apart) (other : ∀ c v i r, e ≠ .called c v i r) (known : ∀ i, e.on? = some i → i < s.instances) :
    (s.note e).Apart := by
  refine ⟨h.known, h.distinct, ?_, h.ready_known, ?_, ?_⟩
  · intro e' he' i hi
    rcases List.mem_cons.1 he' with rfl | he'
    · exact known i hi
    · exact h.seen e' he' i hi
  · intro c i took
    exact h.taken_free c i ((took_note other).1 took)
  · intro c d i hc hd
    exact h.taken_once c d i ((took_note other).1 hc) ((took_note other).1 hd)

/-- A call takes an instance that no service holds and no call has. -/
theorem take (h : s.Apart) (c : CallId) (v : ServiceId) (r : Request) (hi : i < s.instances)
    (free : ∀ w < s.services, s.holds w ≠ i) (new : ∀ d, ¬ s.Took d i) : (s.note (.called c v i r)).Apart := by
  have took_iff {d : CallId} {j : InstanceId} :
      (s.note (.called c v i r)).Took d j ↔ (d = c ∧ j = i) ∨ s.Took d j := by
    simp only [Took, State.note, List.mem_cons, Event.called.injEq]
    constructor
    · rintro ⟨v', r', ⟨rfl, -, rfl, -⟩ | mem⟩
      · exact .inl ⟨rfl, rfl⟩
      · exact .inr ⟨v', r', mem⟩
    · rintro (⟨rfl, rfl⟩ | ⟨v', r', mem⟩)
      · exact ⟨v, r, .inl ⟨rfl, rfl, rfl, rfl⟩⟩
      · exact ⟨v', r', .inr mem⟩
  refine ⟨h.known, h.distinct, ?_, h.ready_known, ?_, ?_⟩
  · intro e he j hj
    rcases List.mem_cons.1 he with rfl | he
    · cases hj; exact hi
    · exact h.seen e he j hj
  · intro d j took
    rcases took_iff.1 took with ⟨-, rfl⟩ | took
    · exact free
    · exact h.taken_free d j took
  · intro d₁ d₂ j h₁ h₂
    rcases took_iff.1 h₁ with ⟨hd₁, rfl⟩ | old₁ <;> rcases took_iff.1 h₂ with ⟨hd₂, hj⟩ | old₂
    · exact hd₁.trans hd₂.symm
    · exact absurd old₂ (new d₂)
    · exact absurd (hj ▸ old₁) (new d₁)
    · exact h.taken_once d₁ d₂ j old₁ old₂

end Apart

theorem Move.apart (m : Move s a s') (h : s.Apart) (taken : ∀ c i, (s.phase c).taken? = some i → s.Took c i) :
    s'.Apart := by
  have refresh {v : ServiceId} : (s.refresh v).Apart := h.refresh v fun w hw _ => hw
  have forward {c : CallId} {i : InstanceId} (r : Request) (took : s.Took c i) : (s.forward c i r).Apart :=
    ((h.mark i false nofun).goto c _).note nofun fun _ hi => Option.some.inj hi ▸ h.took_lt took
  have reject {c : CallId} {r : Request} {e : CredentialError} : (s.reject c r e).Apart :=
    ((h.write _).goto c _).note nofun nofun
  cases m with
  | @ready v hv =>
    exact (h.mark _ true fun _ => h.known v hv).note nofun fun _ hi => Option.some.inj hi ▸ h.known v hv
  | clone => exact h.refresh s.services fun w hw hne => Nat.lt_of_le_of_ne (Nat.le_of_lt_succ hw) hne
  | replace => exact refresh
  | @call c v r hv =>
    -- After the swap nobody holds what the call takes.
    refine (refresh.goto c _).take c v r (Nat.lt_succ_of_lt (h.known v hv)) ?_ ?_
    · intro w hw
      by_cases hne : w = v
      · rw [hne]
        exact fun heq => Nat.ne_of_gt (h.known v hv) ((if_pos rfl).symm.trans heq)
      · exact fun heq => hne (h.distinct w hw v hv ((if_neg hne).symm.trans heq))
    · intro d took
      exact h.taken_free d _ took v hv rfl
  | refuse | fail | expire => exact reject
  | ask => exact (h.goto _ _).note nofun nofun
  | pass hp | attach hp => exact forward _ (taken _ _ (by rw [hp]; rfl))
  | answer | drop => exact (h.goto _ _).note nofun nofun

end State

namespace Run

theorem took_of_taken (run : Run cr as s) (h : (s.phase c).taken? = some i) :
    s.Took c i ∧ ∀ j r w, .sent c j r w ∉ s.history := by
  obtain ⟨⟨v, r, called⟩, unsent⟩ := (run.life c).of_taken h
  exact ⟨⟨v, r, (mem_ownBy.1 called).1⟩, fun j r w sent => unsent j r w (mem_ownBy.2 ⟨sent, rfl⟩)⟩

theorem took_of_sent (run : Run cr as s) (h : .sent c i r w ∈ s.history) : s.Took c i := by
  obtain ⟨v, r₀, o, as', es', later, f, -, he⟩ := (run.life c).of_sent (mem_ownBy.2 ⟨h, rfl⟩)
  have called : .called c v i r₀ ∈ eventsOf c s.history := by simp [he, f.called]
  exact ⟨v, r₀, (mem_ownBy.1 called).1⟩

theorem apart (run : Run cr as s) : s.Apart := by
  induction run with
  | initial => exact .initial cr
  | step run m ih => exact m.apart ih fun c i h => (run.took_of_taken h).1

/-- No instance is used twice. -/
theorem used_nodup (run : Run cr as s) : s.used.Nodup := by
  induction run with
  | initial => exact List.nodup_nil
  | @step as s s' a run m ih =>
    -- Only the call that took it could have used an instance, and a call that still waits has sent nothing.
    have unused {c : CallId} {i : InstanceId} (h : (s.phase c).taken? = some i) : i ∉ s.used := by
      intro hi
      obtain ⟨took, unsent⟩ := run.took_of_taken h
      obtain ⟨d, r, w, sent⟩ := State.mem_used.1 hi
      obtain rfl := run.apart.taken_once c d i took (run.took_of_sent sent)
      exact unsent i r w sent
    cases m with
    | pass hp | attach hp => exact List.nodup_cons.2 ⟨unused (by rw [hp]; rfl), ih⟩
    | ready | clone | replace | call | refuse | ask | fail | expire | answer | drop => exact ih

end Run

end IdentityClient.Credentials
