import IdentityClient.Proofs.Refreshing.Cache
import IdentityClient.Proofs.Refreshing.Life

/-!
# Counter, last failure and history

What the counter and the last failure say about the exchanges that have been counted: since a call has read
the counter it has grown by the number of exchanges counted since (`Reachable.attempts_eq`), and
unless the holder of the lock is about to count one, the last failure is that of the latest exchange
(`Reachable.lastFailure_eq`). Both are written one after the other, and a call that is given up between its
reading and an exchange leaves both alone.
-/

namespace IdentityClient.Refreshing

def Event.recorded? : Event → Option Outcome
  | .recorded _ o => some o
  | _ => none

def Event.isCount (c : CallId) : Event → Bool
  | .counted d _ => d == c
  | _ => false

/-- The outcomes of the exchanges that have been counted, the latest first. -/
def recordings (h : List Event) : List Outcome := h.filterMap Event.recorded?

/-- What has happened since call `c` read the counter. -/
def since (c : CallId) (h : List Event) : List Event := h.takeWhile fun e => !e.isCount c

/-- The text that an outcome leaves as the last failure. -/
def failureText : Option Outcome → Option String
  | some (.failed e) => some e.message
  | _ => none

/-- What a call that waits has read off the counter. -/
def Phase.seen? : Phase → Option Nat
  | .asking n | .queued n | .rechecking n | .comparing n => some n
  | _ => none

/-- The last failure that a call has written and not counted. -/
def Phase.failure? : Phase → Option (Option String)
  | .cleared _ => some none
  | .written o => some (failureText (some o))
  | _ => none

theorem Phase.stand_of_failure? {p : Phase} {x : Option String} (h : p.failure? = some x) :
    p.stand = .holding := by
  cases p <;> first | rfl | cases h

theorem recordings_cons (e : Event) (h : List Event) :
    recordings (e :: h) = e.recorded?.toList ++ recordings h := by
  unfold recordings
  cases he : e.recorded? with
  | none => simp [he]
  | some o => simp [he]

theorem since_cons {c : CallId} {e : Event} (he : e.isCount c = false) (h : List Event) :
    since c (e :: h) = e :: since c h := by
  simp [since, he]

theorem isCount_of_ne {c : CallId} {e : Event} (he : e.call ≠ c) : e.isCount c = false := by
  cases e <;> first | rfl | simpa [Event.isCount, Event.call] using he

namespace State

variable {s s' : State} {c d : CallId} {n : Nat}

/-- A move adds an event or none; the counter counts those that record an exchange. -/
theorem Move.attempts (m : Move s c s') :
    (s'.history = s.history ∧ s'.attempts = s.attempts) ∨
      ∃ e : Event, s'.history = e :: s.history ∧ s'.attempts = s.attempts + e.recorded?.toList.length := by
  cases m with
  | quit =>
    obtain ⟨_, _, e⟩ := leave_eq s c
    exact .inr ⟨.dropped c, by rw [e]; rfl, by rw [e]; rfl⟩
  | unlock => exact .inl (by rw [release_eq]; exact ⟨rfl, rfl⟩)
  | _ => first | exact .inl ⟨rfl, rfl⟩ | exact .inr ⟨_, rfl, rfl⟩

/-- Moves that are not a call's reading of the counter count the same into the counter and into what has
happened since that reading. -/
theorem Move.attempts_since (m : Move s d s') (he : ∀ e, s'.history = e :: s.history → e.isCount c = false)
    (h : s.attempts = n + (recordings (since c s.history)).length) :
    s'.attempts = n + (recordings (since c s'.history)).length := by
  obtain ⟨hh, ha⟩ | ⟨e, hh, ha⟩ := m.attempts
  · rw [hh, ha]; exact h
  · rw [hh, ha, since_cons (he e hh), recordings_cons, List.length_append, h]
    omega

theorem Move.isCount_of_ne (m : Move s d s') (hd : d ≠ c) (e : Event) (hh : s'.history = e :: s.history) :
    e.isCount c = false := by
  obtain h | ⟨e', he, h⟩ := m.history
  · exact absurd (h.symm.trans hh) (by simp)
  · rw [h] at hh
    cases hh
    exact Refreshing.isCount_of_ne (he ▸ hd)

/-- The counter has grown by the number of exchanges that have been counted since a call read it. -/
theorem Reachable.attempts_eq (r : Reachable s) (h : (s.phase c).seen? = some n) :
    s.attempts = n + (recordings (since c s.history)).length := by
  induction r with
  | initial => cases h
  | primed => cases h
  | step r st ih =>
    rename_i s s'
    obtain ⟨d, m⟩ | ⟨d, rfl⟩ := st.move
    · by_cases hd : d = c
      · subst d
        have waits {p : Phase} (hp : s.phase c = p) (hq : p.seen? = some n)
            (he : ∀ e, s'.history = e :: s.history → e.isCount c = false) :
            s'.attempts = n + (recordings (since c s'.history)).length :=
          m.attempts_since he (ih (by rw [hp]; exact hq))
        cases m with
        | count => simp_all [goto, note, Phase.seen?, since, recordings, Event.isCount]
        | lock hp => exact waits hp (by simpa [goto, Phase.seen?] using h) (by simp [goto])
        | queue hp =>
          exact waits hp (by simpa [goto, note, Phase.seen?] using h) (by simp [goto, note, Event.isCount])
        | wake hp => exact waits hp (by simpa [goto, Phase.seen?] using h) (by simp [goto])
        | lateMiss hp => exact waits hp (by simpa [goto, Phase.seen?] using h) (by simp [goto])
        | _ => simp [goto, note, write, Phase.seen?] at h
      · rw [m.phase_of_ne (Ne.symm hd)] at h
        exact m.attempts_since (m.isCount_of_ne hd) (ih h)
    · exact ih h

theorem Reachable.recordings_since_ne_nil (r : Reachable s) (h : s.phase c = .consulting) :
    recordings (since c s.history) ≠ [] := by
  induction r with
  | initial => cases h
  | primed => cases h
  | step r st ih =>
    rename_i s s'
    obtain ⟨d, m⟩ | ⟨d, rfl⟩ := st.move
    · by_cases hd : d = c
      · subst d
        cases m with
        | changed hp hne =>
          have grown := r.attempts_eq (c := c) (by rw [hp]; rfl)
          intro nothing
          rw [show recordings (since c s.history) = [] from nothing] at grown
          exact hne grown
        | _ => simp [goto, note, write] at h
      · rw [m.phase_of_ne (Ne.symm hd)] at h
        obtain hh | ⟨e, he, hh⟩ := m.history
        · rw [hh]; exact ih h
        · rw [hh, since_cons (m.isCount_of_ne hd e hh), recordings_cons]
          simp [ih h]
    · exact ih h

theorem Reachable.lastFailure_of_failure? {x : Option String} (r : Reachable s)
    (h : (s.phase c).failure? = some x) : s.lastFailure = x := by
  induction r with
  | initial => cases h
  | primed => cases h
  | step r st ih =>
    rename_i s s'
    obtain ⟨d, m⟩ | ⟨d, rfl⟩ := st.move
    · by_cases hd : c = d
      · subst d
        cases m with
        | clear | keep => simpa [goto, Phase.failure?, failureText] using h
        | tell hp => exact ih (by rw [hp]; simpa [goto, write, Phase.failure?, failureText] using h)
        | _ => simp [goto, note, write, Phase.failure?] at h
      · rw [m.phase_of_ne hd] at h
        rw [(r.orderly.sameRecord (Phase.stand_of_failure? h) hd m).lastFailure]
        exact ih h
    · exact ih h

/-- As long as nobody has written a last failure that is not counted, it is that of the latest exchange. -/
theorem Reachable.lastFailure_eq (r : Reachable s) (h : ∀ c, (s.phase c).failure? = none) :
    s.lastFailure = failureText (recordings s.history).head? := by
  induction r with
  | initial => rfl
  | primed => rfl
  | step r st ih =>
    rename_i s s'
    obtain ⟨d, m⟩ | ⟨d, rfl⟩ := st.move
    · have before (hd : (s.phase d).failure? = none) :
          s.lastFailure = failureText (recordings s.history).head? := by
        refine ih fun c => ?_
        by_cases hc : c = d
        · rw [hc]; exact hd
        · rw [← m.phase_of_ne hc]; exact h c
      cases m with
      | record hp => exact r.lastFailure_of_failure? (c := d) (by rw [hp]; rfl)
      | clear | tell | keep => have := h d; simp [goto, write, Phase.failure?] at this
      | unlock hp => rw [release_eq]; exact before (by rw [hp]; rfl)
      | quit hp =>
        obtain ⟨_, _, e⟩ := leave_eq s d
        rw [e]
        exact before (by revert hp; cases s.phase d <;> simp [Phase.canQuit, Phase.failure?])
      | hit hp | miss hp | lateHit hp | lateMiss hp | lock hp | queue hp | wake hp | unchanged hp | changed hp
      | relay hp | retry hp => exact before (by rw [hp]; rfl)
      | call hp | count hp | start hp | finish _ hp | store hp | warn hp | ret hp =>
        exact before (by rw [hp]; rfl)
    · exact ih h

end State

end IdentityClient.Refreshing
