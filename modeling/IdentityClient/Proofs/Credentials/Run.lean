import IdentityClient.Credentials.Service

/-!
# Runs of services and their calls

An `Action` is what is done in one step, with all that comes from outside: the requests, what the token source
answers, what the inner service answers. `Move s a s'` takes a service from `s` to `s'` by `a`; a step of a service is
such a move (`Step.move`). A `Run` keeps the actions that have led to a state, the latest first; what can be reached is
what runs lead to (`State.reachable_iff`).
-/

namespace IdentityClient.Credentials

inductive Action (ρ : Type) where
  /-- The instance of a service is found ready. -/
  | ready (v : ServiceId)
  | clone (v : ServiceId)
  | replace (v : ServiceId)
  | call (c : CallId) (v : ServiceId) (r : Request)
  | begin (c : CallId)
  | fetched (c : CallId) (o : TokenOutcome)
  | expire (c : CallId)
  | answer (c : CallId) (x : ρ)
  | drop (c : CallId)

variable {ρ : Type}

/-- The call that something is done about. -/
def Action.call? : Action ρ → Option CallId
  | .ready _ | .clone _ | .replace _ => none
  | .call c _ _ | .begin c | .fetched c _ | .expire c | .answer c _ | .drop c => some c

/-- The call that an event belongs to. -/
def Event.call? : Event ρ → Option CallId
  | .ready _ _ => none
  | .called c _ _ _ | .asked c | .sent c _ _ _ | .ended c _ | .dropped c => some c

/-- The call goes on and can be given up. -/
def Phase.isOpen : Phase ρ → Bool
  | .created _ _ | .fetching _ _ | .sent _ => true
  | .outside | .done => false

namespace State

inductive Move (s : State ρ) : Action ρ → State ρ → Prop
  | ready {v : ServiceId} : v < s.services → Move s (.ready v) (s.ready v)
  | clone {v : ServiceId} : v < s.services → Move s (.clone v) (s.clone v)
  | replace {v : ServiceId} : v < s.services → Move s (.replace v) (s.replace v)
  | call {c : CallId} {v : ServiceId} {r : Request} : v < s.services → s.phase c = .outside →
      Move s (.call c v r) (((s.refresh v).goto c (.created (s.holds v) r)).note (.called c v (s.holds v) r))
  | refuse {c : CallId} {i : InstanceId} {r : Request} : s.phase c = .created i r →
      s.credentials.refuses r.uri = true → Move s (.begin c) (s.reject c r .insecureTransport)
  | ask {c : CallId} {i : InstanceId} {r : Request} : s.phase c = .created i r →
      s.credentials.refuses r.uri = false → s.credentials.hasSource = true →
      Move s (.begin c) ((s.goto c (.fetching i r)).note (.asked c))
  | pass {c : CallId} {i : InstanceId} {r : Request} : s.phase c = .created i r →
      s.credentials.refuses r.uri = false → s.credentials.hasSource = false → Move s (.begin c) (s.forward c i r)
  | attach {c : CallId} {i : InstanceId} {r : Request} {o : TokenOutcome} {h : HeaderValue} :
      s.phase c = .fetching i r → CallCredentials.ofOutcome o = .ok h →
      Move s (.fetched c o) (s.forward c i (r.authorize h))
  | fail {c : CallId} {i : InstanceId} {r : Request} {o : TokenOutcome} {e : CredentialError} :
      s.phase c = .fetching i r → CallCredentials.ofOutcome o = .error e →
      Move s (.fetched c o) (s.reject c r e)
  | expire {c : CallId} {i : InstanceId} {r : Request} {d : Duration} : s.phase c = .fetching i r →
      Grpc.timeout r.headers = some d → Move s (.expire c) (s.reject c r .deadline)
  | answer {c : CallId} {i : InstanceId} (x : ρ) : s.phase c = .sent i →
      Move s (.answer c x) ((s.goto c .done).note (.ended c (.answered x)))
  | drop {c : CallId} : (s.phase c).isOpen → Move s (.drop c) ((s.goto c .done).note (.dropped c))

variable {cr : CallCredentials} {s s' : State ρ} {a : Action ρ} {as : List (Action ρ)} {c d : CallId}
  {v : ServiceId} {r : Request} {o : TokenOutcome} {x : ρ}

theorem Move.of_call (hv : v < s.services) (h : s.call c v r = some s') : Move s (.call c v r) s' := by
  unfold State.call at h
  split at h
  · cases h; exact .call hv ‹_›
  · cases h

theorem Move.of_begin (h : s.begin c = some s') : Move s (.begin c) s' := by
  unfold State.begin at h
  split at h
  · rename_i hp
    split at h
    · rename_i refused
      cases h; exact .refuse hp refused
    · rename_i passes
      have passes := Bool.eq_false_iff.2 passes
      split at h
      · rename_i source
        cases h; exact .ask hp passes source
      · rename_i source
        cases h; exact .pass hp passes (Bool.eq_false_iff.2 source)
  · cases h

theorem Move.of_fetched (h : s.fetched c o = some s') : Move s (.fetched c o) s' := by
  unfold State.fetched at h
  split at h
  · rename_i hp
    split at h
    · rename_i ho
      cases h; exact .attach hp ho
    · rename_i ho
      cases h; exact .fail hp ho
  · cases h

theorem Move.of_expire (h : s.expire c = some s') : Move s (.expire c) s' := by
  unfold State.expire at h
  split at h
  · rename_i hp
    obtain ⟨d, hd, rfl⟩ := Option.map_eq_some_iff.1 h
    exact .expire hp hd
  · cases h

theorem Move.of_answer (h : s.answer c x = some s') : Move s (.answer c x) s' := by
  unfold State.answer at h
  split at h
  · rename_i hp
    cases h; exact .answer x hp
  · cases h

theorem Move.of_drop (h : s.drop c = some s') : Move s (.drop c) s' := by
  unfold State.drop at h
  split at h
  case h_4 => cases h
  all_goals
    rename_i hp
    cases h
    exact .drop (by rw [hp]; rfl)

theorem Step.move (h : Step s s') : ∃ a, Move s a s' := by
  cases h with
  | ready v hv => exact ⟨_, .ready hv⟩
  | clone v hv => exact ⟨_, .clone hv⟩
  | replace v hv => exact ⟨_, .replace hv⟩
  | call c v r hv h => exact ⟨_, .of_call hv h⟩
  | begin c h => exact ⟨_, .of_begin h⟩
  | fetched c o h => exact ⟨_, .of_fetched h⟩
  | expire c h => exact ⟨_, .of_expire h⟩
  | answer c x h => exact ⟨_, .of_answer h⟩
  | drop c h => exact ⟨_, .of_drop h⟩

theorem Move.step (m : Move s a s') : Step s s' := by
  cases m with
  | ready hv => exact .ready _ hv
  | clone hv => exact .clone _ hv
  | replace hv => exact .replace _ hv
  | @call c v r hv hp => exact .call c v r hv (by simp [State.call, hp])
  | @refuse c i r hp refused => exact .begin c (by simp [State.begin, hp, refused])
  | @ask c i r hp passes source => exact .begin c (by simp [State.begin, hp, passes, source])
  | @pass c i r hp passes source => exact .begin c (by simp [State.begin, hp, passes, source])
  | @attach c i r o h hp ho => exact .fetched c o (by simp [State.fetched, hp, ho])
  | @fail c i r o e hp ho => exact .fetched c o (by simp [State.fetched, hp, ho])
  | @expire c i r d hp hd => exact .expire c (by simp [State.expire, hp, hd])
  | @answer c i x hp => exact .answer c x (by simp [State.answer, hp])
  | @drop c hp =>
    refine .drop c ?_
    cases hq : s.phase c with
    | created | fetching | sent => simp [State.drop, hq]
    | outside | done => rw [hq] at hp; cases hp

/-- What is done to other calls and to services leaves a call where it is. -/
theorem Move.phase_of_ne (m : Move s a s') (h : a.call? ≠ some c) : s'.phase c = s.phase c := by
  cases m with
  | ready | clone | replace => rfl
  | @call d | @refuse d | @ask d | @pass d | @attach d | @fail d | @expire d | @answer d | @drop d =>
    have hne : c ≠ d := fun hc => h (congrArg some hc.symm)
    exact goto_phase_of_ne _ _ hne

/-- Each move adds one event at most, which belongs to the call that it is about. -/
theorem Move.history (m : Move s a s') :
    s'.history = s.history ∨ ∃ e : Event ρ, e.call? = a.call? ∧ s'.history = e :: s.history := by
  cases m with
  | clone | replace => exact .inl rfl
  | _ => exact .inr ⟨_, rfl, rfl⟩

theorem Move.credentials (m : Move s a s') : s'.credentials = s.credentials := by
  cases m <;> rfl

end State

/-- What can be done with a service, its clones and their calls, the latest action first. -/
inductive Run (cr : CallCredentials) : List (Action ρ) → State ρ → Prop
  | initial : Run cr [] (.initial cr)
  | step {as : List (Action ρ)} {s s' : State ρ} {a : Action ρ} : Run cr as s → s.Move a s' → Run cr (a :: as) s'

theorem Run.credentials {cr : CallCredentials} {as : List (Action ρ)} {s : State ρ} (run : Run cr as s) :
    s.credentials = cr := by
  induction run with
  | initial => rfl
  | step _ m ih => exact m.credentials.trans ih

/-- The service has been found ready and called. -/
theorem Run.first_call (cr : CallCredentials) (r : Request) : Run (ρ := ρ) cr [.call 0 0 r, .ready 0]
    (((((State.initial cr).ready 0).refresh 0).goto 0 (.created 0 r)).note (.called 0 0 0 r)) :=
  (Run.initial.step (.ready Nat.one_pos)).step (.call Nat.one_pos rfl)

theorem Run.services_pos {cr : CallCredentials} {as : List (Action ρ)} {s : State ρ} (run : Run cr as s) :
    0 < s.services := by
  induction run with
  | initial => exact Nat.one_pos
  | step _ m ih => cases m <;> first | exact ih | exact Nat.succ_pos _

/-- What can become of a service is what runs lead to. -/
theorem State.reachable_iff {cr : CallCredentials} {s : State ρ} : Reachable cr s ↔ ∃ as, Run cr as s := by
  constructor
  · intro h
    induction h with
    | initial => exact ⟨[], .initial⟩
    | step _ st ih =>
      obtain ⟨as, run⟩ := ih
      obtain ⟨a, m⟩ := st.move
      exact ⟨a :: as, run.step m⟩
  · rintro ⟨as, run⟩
    induction run with
    | initial => exact .initial
    | step _ m ih => exact ih.step m.step

end IdentityClient.Credentials
