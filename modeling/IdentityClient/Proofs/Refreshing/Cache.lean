import IdentityClient.Proofs.Expiry
import IdentityClient.Proofs.Refreshing.Lock
import IdentityClient.Refreshing.Lone

/-!
# The cache under the lock

Only a call whose exchange has ended writes to the cache, the last failure, the counter and the log
(`Move.sameRecord`), and it has the lock. So a call that has the lock and finds no fresh token still finds none
when it starts its exchange, and after that until it stores one (`Reachable.fresh_of_isDry`); a token that it
has stored stays in the cache until it gives the lock back (`Reachable.cached_of_stored`).
-/

namespace IdentityClient.Refreshing

/-- How the exchange of a call has ended that is not counted yet. -/
def Phase.ending? : Phase → Option Outcome
  | .ended o | .written o => some o
  | .stored t | .cleared t => some (.token t)
  | .warned e => some (.failed e)
  | _ => none

/-- Has the lock, has found no fresh token and has stored none. -/
def Phase.isDry : Phase → Bool
  | .comparing _ | .consulting | .starting | .exchanging | .ended _ | .warned _ | .written (.failed _) => true
  | _ => false

/-- The token that a call has put into the cache, until its exchange is counted. -/
def Phase.stored? : Phase → Option AccessToken
  | .stored t | .cleared t | .written (.token t) => some t
  | _ => none

theorem Phase.stand_of_ending? {p : Phase} {o : Outcome} (h : p.ending? = some o) : p.stand = .holding := by
  cases p <;> first | rfl | cases h

theorem Phase.stand_of_isDry {p : Phase} (h : p.isDry = true) : p.stand = .holding := by
  cases p <;> first | rfl | cases h

theorem Phase.stand_of_stored? {p : Phase} {t : AccessToken} (h : p.stored? = some t) :
    p.stand = .holding := by
  cases p <;> first | rfl | cases h

namespace State

variable {s s' : State} {c d : CallId}

theorem Move.sameRecord (m : Move s c s') (h : (s.phase c).ending? = none) : SameRecord s' s := by
  cases m with
  | store hp | warn hp | clear hp | tell hp | keep hp | record hp => rw [hp] at h; cases h
  | quit =>
    obtain ⟨_, _, e⟩ := leave_eq s c
    rw [e]
    exact ⟨rfl, rfl, rfl, rfl⟩
  | unlock => have := SameRecord.release s; exact ⟨this.cached, this.lastFailure, this.attempts, this.log⟩
  | _ => exact ⟨rfl, rfl, rfl, rfl⟩

/-- While one call has the lock, the moves of the others write nothing. -/
theorem Orderly.sameRecord (h : Orderly s) (hd : (s.phase d).stand = .holding) (hne : d ≠ c)
    (m : Move s c s') : SameRecord s' s := by
  refine m.sameRecord (Option.eq_none_iff_forall_not_mem.2 fun o ho => hne ?_)
  exact h.eq_of_holding hd (Phase.stand_of_ending? ho)

theorem fresh_congr (hc : s'.cached = s.cached) (hn : s'.now = s.now) (hm : s'.margin = s.margin) :
    s'.fresh = s.fresh := by
  simp only [fresh, hc, hn, hm]

theorem fresh_eq_some_iff {t : AccessToken} :
    s.fresh = some t ↔ s.cached = some t ∧ t.expiresWithin s.now s.margin = false := by
  simp [fresh, Option.filter_eq_some_iff]

theorem fresh_eq_none_iff :
    s.fresh = none ↔ ∀ t, s.cached = some t → t.expiresWithin s.now s.margin = true := by
  simp [fresh, Option.filter_eq_none_iff]

theorem Step.expiresWithin {t : AccessToken} (st : Step s s') (h : t.expiresWithin s.now s.margin = true) :
    t.expiresWithin s'.now s'.margin = true := by
  obtain ⟨c, m⟩ | ⟨d, rfl⟩ := st.move
  · rw [m.now, m.margin]; exact h
  · exact AccessToken.expiresWithin_advance d h

theorem fresh_elapse (d : Duration) (h : s.fresh = none) : (s.elapse d).fresh = none := by
  rw [fresh_eq_none_iff] at h ⊢
  exact fun t ht => AccessToken.expiresWithin_advance d (h t ht)

theorem Reachable.fresh_of_isDry (r : Reachable s) (h : (s.phase c).isDry) : s.fresh = none := by
  induction r with
  | initial => cases h
  | primed => cases h
  | step r st ih =>
    rename_i s s'
    obtain ⟨d, m⟩ | ⟨d, rfl⟩ := st.move
    · by_cases hd : c = d
      · subst d
        -- Its own moves before it stores a token look at the cache or leave it alone.
        have dry {p : Phase} (hp : s.phase c = p) (hq : p.isDry) : s.fresh = none := ih (by rw [hp]; exact hq)
        cases m with
        | lateMiss _ hf => exact hf
        | unchanged hp | changed hp | retry hp | start hp | finish _ hp | warn hp | keep hp => exact dry hp rfl
        | _ => simp [goto, note, write, Phase.isDry] at h
      · rw [m.phase_of_ne hd] at h
        have same := r.orderly.sameRecord (Phase.stand_of_isDry h) hd m
        rw [fresh_congr same.cached m.now m.margin]
        exact ih h
    · exact fresh_elapse d (ih h)

theorem Reachable.cached_of_stored {t : AccessToken} (r : Reachable s) (h : (s.phase c).stored? = some t) :
    s.cached = some t := by
  induction r with
  | initial => cases h
  | primed => cases h
  | step r st ih =>
    rename_i s s'
    obtain ⟨d, m⟩ | ⟨d, rfl⟩ := st.move
    · by_cases hd : c = d
      · subst d
        have stored {p : Phase} (hp : s.phase c = p) (hq : p.stored? = some t) : s.cached = some t :=
          ih (by rw [hp]; exact hq)
        cases m with
        | store => simpa [goto, Phase.stored?] using h
        | clear hp => exact stored hp (by simpa [goto, Phase.stored?] using h)
        | tell hp => exact stored hp (by simpa [goto, write, Phase.stored?] using h)
        | _ => simp [goto, note, write, Phase.stored?] at h
      · rw [m.phase_of_ne hd] at h
        rw [(r.orderly.sameRecord (Phase.stand_of_stored? h) hd m).cached]
        exact ih h
    · exact ih h

end State

end IdentityClient.Refreshing
