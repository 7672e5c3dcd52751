import IdentityClient.Proofs.Credentials.Plaintext
import Mathlib.Logic.Relation

/-!
# Calls behind their fetch

When the fetch for a call has come to a value or to an error, the request has been passed on or the call has been
rejected (`Passed`). Whatever is done afterwards, nothing more is sent for it, and it is not rejected any more
(`Past.later`): a late answer of the token source finds nobody, and the limit of the call has gone with the fetch.
-/

namespace IdentityClient.Credentials

variable {ρ : Type} {cr : CallCredentials} {as : List (Action ρ)} {c d : CallId} {r : Request}
  {m : Except CredentialError (Option HeaderValue)}

/-- How a call ends whose fetch has come to a value or to an error. -/
def Result.of (answer : ρ) : Except CredentialError (Option HeaderValue) → Result ρ
  | .ok _ => .answered answer
  | .error e => .rejected e

namespace State

variable {s s' : State ρ} {a : Action ρ} {e : Event ρ} {i : InstanceId}

/-- The fetch of call `c` with request `r` has come to a value, and the request was sent with it, or to an error, and
the call was rejected. -/
def Passed (s : State ρ) (c : CallId) (r : Request) : Except CredentialError (Option HeaderValue) → Prop
  | .ok h => (∃ i, s.phase c = .sent i) ∧ s.sent c = [(r.carry h, true)] ∧ s.result? c = none
  | .error e => s.phase c = .done ∧ s.sent c = [] ∧ s.result? c = some (.rejected e)

/-- The inner service has the request of call `c`, or the call is over. -/
def Past (s : State ρ) (c : CallId) : Prop := (∃ i, s.phase c = .sent i) ∧ s.result? c = none ∨ s.phase c = .done

theorem Passed.past (h : s.Passed c r m) : s.Past c := by
  cases m with
  | ok => exact .inl ⟨h.1, h.2.2⟩
  | error => exact .inr h.1

theorem Passed.rejected_iff (h : s.Passed c r m) (e : CredentialError) :
    s.result? c = some (.rejected e) ↔ m = .error e := by
  cases m with
  | ok => simp [h.2.2]
  | error => simp [h.2.2]

theorem passed_reject (unsent : s.sent c = []) (r : Request) (e : CredentialError) :
    (s.reject c r e).Passed c r (.error e) :=
  ⟨goto_phase_self .., unsent, s.result?_reject c r e⟩

theorem passed_forward (unsent : s.sent c = []) (unended : s.result? c = none) (ready : s.isReady i = true)
    (r : Request) (h : Option HeaderValue) : (s.forward c i (r.carry h)).Passed c r (.ok h) := by
  refine ⟨⟨i, goto_phase_self ..⟩, ?_, unended⟩
  have sent : (s.forward c i (r.carry h)).sent c = s.sent c ++ [(r.carry h, s.isReady i)] := by
    simp [State.sent, forward, note, goto, mark]
  rw [sent, unsent, ready]
  rfl

theorem passed_fetched (unsent : s.sent c = []) (unended : s.result? c = none) (hp : s.phase c = .fetching i r)
    (ready : s.isReady i = true) (o : TokenOutcome) :
    ((s.fetched c o).getD s).Passed c r ((CallCredentials.ofOutcome o).map some) := by
  rw [fetched, hp]
  cases ho : CallCredentials.ofOutcome o with
  | ok h => exact passed_forward unsent unended ready r (some h)
  | error e => exact passed_reject unsent r e

theorem passed_expire (unsent : s.sent c = []) (hp : s.phase c = .fetching i r) {d : Duration}
    (limit : Grpc.timeout r.headers = some d) : ((s.expire c).getD s).Passed c r (.error .deadline) := by
  have expired : s.expire c = some (s.reject c r .deadline) := by simp [expire, hp, limit]
  rw [expired]
  exact passed_reject unsent r .deadline

theorem Passed.result?_answer {m : Except CredentialError (Option HeaderValue)} (h : s.Passed c r m) (x : ρ) :
    ((s.answer c x).getD s).result? c = some (.of x m) := by
  cases m with
  | ok o =>
    obtain ⟨⟨i, hp⟩, -, -⟩ := h
    have answered : s.answer c x = some ((s.goto c .done).note (.ended c (.answered x))) := by rw [answer, hp]
    rw [answered]
    simp [result?, note, Result.of]
  | error e =>
    obtain ⟨hp, -, rejected⟩ := h
    have unanswerable : s.answer c x = none := by rw [answer, hp]
    rw [unanswerable]
    exact rejected

theorem sent_of_ne (hh : s'.history = e :: s.history) (h : e.call? ≠ some c) : s'.sent c = s.sent c := by
  rw [s'.sent_eq, s.sent_eq, hh, eventsOf, ownBy_cons_of_ne h]

theorem result?_of_ne (hh : s'.history = e :: s.history) (h : e.call? ≠ some c) : s'.result? c = s.result? c := by
  rw [result?, hh, List.findSome?_cons, result?]
  cases e with
  | ended d => simp_all [Event.call?]
  | _ => rfl

theorem result?_eq_none (h : ∀ r, .ended c r ∉ s.history) : s.result? c = none := by
  rw [result?, List.findSome?_eq_none_iff]
  intro e he
  cases e with
  | ended d r =>
    have other : d ≠ c := by
      rintro rfl
      exact h r he
    simp [other]
  | _ => rfl

/-- What is done elsewhere leaves a call behind its fetch, and so does what is done about it. -/
theorem Move.past (m : Move s a s') (past : s.Past c) :
    s'.Past c ∧ s'.sent c = s.sent c ∧ ∀ e, s'.result? c = some (.rejected e) ↔ s.result? c = some (.rejected e) := by
  by_cases own : a.call? = some c
  · cases m with
    | ready | clone | replace => cases own
    | call _ hp | refuse hp | ask hp | pass hp | attach hp | fail hp | expire hp =>
      cases own
      rcases past with ⟨⟨i, sent⟩, -⟩ | done
      · rw [hp] at sent
        cases sent
      · rw [hp] at done
        cases done
    | answer x hp =>
      cases own
      have unanswered : s.result? c = none := by
        rcases past with ⟨-, none⟩ | done
        · exact none
        · rw [hp] at done
          cases done
      have answered : ((s.goto c .done).note (.ended c (.answered x))).result? c = some (.answered x) := by
        simp [result?, note]
      exact ⟨.inr (goto_phase_self ..), rfl, by simp [answered, unanswered]⟩
    | drop =>
      cases own
      exact ⟨.inr (goto_phase_self ..), rfl, fun _ => Iff.rfl⟩
  · have same := m.phase_of_ne own
    rcases m.history with hh | ⟨e, he, hh⟩
    · have events : s'.sent c = s.sent c ∧ s'.result? c = s.result? c := by simp only [sent, result?, hh, and_self]
      refine ⟨?_, events.1, fun e => by rw [events.2]⟩
      rwa [Past, same, events.2]
    · have elsewhere : e.call? ≠ some c := he ▸ own
      have result := result?_of_ne hh elsewhere
      refine ⟨?_, sent_of_ne hh elsewhere, fun e => by rw [result]⟩
      rwa [Past, same, result]

/-- Nothing more is sent for a call behind its fetch, and it is not rejected any more. -/
theorem Past.later {u : State ρ} (past : s.Past c) (steps : Relation.ReflTransGen Step s u) :
    u.sent c = s.sent c ∧ ∀ e, u.result? c = some (.rejected e) ↔ s.result? c = some (.rejected e) := by
  have kept : u.Past c ∧ u.sent c = s.sent c ∧
      ∀ e, u.result? c = some (.rejected e) ↔ s.result? c = some (.rejected e) := by
    induction steps with
    | refl => exact ⟨past, rfl, fun _ => Iff.rfl⟩
    | tail _ st ih =>
      obtain ⟨past', sent, rejected⟩ := ih
      obtain ⟨a, m⟩ := st.move
      obtain ⟨past'', sent', rejected'⟩ := m.past past'
      exact ⟨past'', sent'.trans sent, fun e => (rejected' e).trans (rejected e)⟩
  exact kept.2

end State

theorem Life.of_outside {es : List (Event ρ)} (l : Life cr c .outside as es) : es = [] := by
  cases l
  rfl

/-- Nothing has happened to a call that has not been made. -/
theorem Run.untouched {s : State ρ} (run : Run cr as s) (h : s.phase c = .outside) : s.sent c = [] ∧ s.result? c = none := by
  have events : eventsOf c s.history = [] := Life.of_outside (h ▸ run.life c)
  refine ⟨by rw [s.sent_eq, events]; rfl, State.result?_eq_none fun r hr => ?_⟩
  have own : .ended c r ∈ eventsOf c s.history := mem_ownBy.2 ⟨hr, rfl⟩
  rw [events] at own
  cases own

end IdentityClient.Credentials
