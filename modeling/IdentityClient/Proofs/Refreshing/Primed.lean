import IdentityClient.Proofs.Refreshing.Cache
import Mathlib.Logic.Relation

/-!
# While the first token is fresh

A source that starts with a token gives it to every call, side by side or not, and starts no exchange as long as the token
outlives the margin: whoever looks at the cache finds it.
-/

namespace IdentityClient.Refreshing.State

variable {s s' : State} {t : AccessToken} {now : Instant} {margin : Duration}

/-- Where a call stands that has never missed `t`. -/
def IsServed (t : AccessToken) (p : Phase) : Prop :=
  p = .outside ∨ p = .entered ∨ p = .leaving (.token t) ∨ p = .done

/-- The cache holds `t`, and no call has gone past it. -/
structure Serves (t : AccessToken) (s : State) : Prop where
  cached : s.cached = some t
  phases : ∀ c, IsServed t (s.phase c)
  idle : ∀ c, .started c ∉ s.history
  given : ∀ c o, .returned c o ∈ s.history → o = .token t

theorem Serves.primed (now : Instant) (margin : Duration) (t : AccessToken) : Serves t (primed now margin t) :=
  ⟨rfl, fun _ => .inl rfl, fun _ => List.not_mem_nil, fun _ _ h => absurd h List.not_mem_nil⟩

theorem isServed_goto {c : CallId} {p : Phase} (phases : ∀ d, IsServed t (s.phase d)) (here : IsServed t p)
    (d : CallId) : IsServed t ((s.goto c p).phase d) := by
  by_cases hd : d = c
  · rw [hd, goto_phase_self]
    exact here
  · rw [goto_phase_of_ne _ _ hd]
    exact phases d

theorem Serves.note_goto {c : CallId} {p : Phase} {e : Event} (h : Serves t s) (here : IsServed t p)
    (idle : ∀ d, .started d ≠ e) (given : ∀ d o, .returned d o = e → o = .token t) :
    Serves t ((s.goto c p).note e) := by
  refine ⟨h.cached, isServed_goto h.phases here, ?_, ?_⟩
  · intro d started
    rcases List.mem_cons.1 started with same | started
    · exact idle d same
    · exact h.idle d started
  · intro d o returned
    rcases List.mem_cons.1 returned with same | returned
    · exact given d o same
    · exact h.given d o returned

theorem Serves.move {c : CallId} (h : Serves t s) (fresh : t.expiresWithin s.now s.margin = false) (m : Move s c s') :
    Serves t s' := by
  have found : s.fresh = some t := fresh_eq_some_iff.2 ⟨h.cached, fresh⟩
  have phase := h.phases c
  cases m with
  | call => exact h.note_goto (.inr (.inl rfl)) nofun nofun
  | hit _ hit =>
    obtain rfl := Option.some.inj (found.symm.trans hit)
    exact h.note_goto (.inr (.inr (.inl rfl))) nofun nofun
  | miss _ miss =>
    rw [found] at miss
    cases miss
  | @ret o hp =>
    obtain rfl : o = .token t := by simpa [IsServed, hp] using phase
    refine h.note_goto (.inr (.inr (.inr rfl))) nofun ?_
    rintro d o ⟨⟩
    rfl
  | quit =>
    obtain ⟨_, _, e⟩ := leave_eq s c
    rw [e]
    exact Serves.note_goto ⟨h.cached, h.phases, h.idle, h.given⟩ (.inr (.inr (.inr rfl))) nofun nofun
  | count hp | lock hp | queue hp | wake hp | lateHit hp | lateMiss hp | unchanged hp | changed hp | relay hp | retry hp
    | start hp | finish _ hp | store hp | warn hp | clear hp | tell hp | keep hp | record hp | unlock hp =>
    simp [IsServed, hp] at phase

theorem Serves.step (h : Serves t s) (st : Step s s') (fresh : t.expiresWithin s'.now s'.margin = false) :
    Serves t s' := by
  obtain ⟨c, m⟩ | ⟨d, rfl⟩ := st.move
  · rw [m.now, m.margin] at fresh
    exact h.move fresh m
  · exact ⟨h.cached, h.phases, h.idle, h.given⟩

theorem Serves.steps (steps : Relation.ReflTransGen Step (State.primed now margin t) s)
    (fresh : t.expiresWithin s.now s.margin = false) : Serves t s := by
  induction steps with
  | refl => exact .primed now margin t
  | tail _ st ih =>
    refine Serves.step (ih ?_) st fresh
    refine Bool.eq_false_iff.2 fun stale => ?_
    rw [st.expiresWithin stale] at fresh
    cases fresh

end IdentityClient.Refreshing.State
