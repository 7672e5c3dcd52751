import IdentityClient.Proofs.Secrets.Refreshing

/-!
# Services and their calls without their secrets

A call differs by the secret of its token in the authorization that it sends and in nothing else: without it, what can
be done with a service comes to the same whichever token is fetched, if a header can carry the one as well as the other
(`State.redact_perform`).
-/

namespace IdentityClient

/-- The request without its authorization. -/
def Request.redact (r : Request) : Request := { r with headers := r.headers.erase Request.authorization }

@[simp] theorem Request.redact_authorize (r : Request) (v : HeaderValue) : (r.authorize v).redact = r.redact := by
  simp [redact, authorize, Headers.insert, Headers.erase, List.filter_filter]

@[simp] theorem Request.redact_redact (r : Request) : r.redact.redact = r.redact := by
  simp [redact, Headers.erase, List.filter_filter]

namespace CallCredentials

theorem bearer_redact (t : AccessToken) : (bearer t.redact).map (fun _ => ()) = (bearer t).map fun _ => () := by
  have fits := (AccessToken.redact_eq_iff.1 t.redact_redact).2
  by_cases fit : Printable t.bearerBytes
  · rw [bearer_of_printable fit, bearer_of_printable (fits.2 fit), Except.map, Except.map]
  · rw [bearer_of_not_printable fit, bearer_of_not_printable fun h => fit (fits.1 h)]

/-- Whether an outcome gives a header value, and else why not, can be told without the secret. -/
theorem ofOutcome_redact (o : TokenOutcome) : (ofOutcome o.redact).map (fun _ => ()) = (ofOutcome o).map fun _ => () := by
  cases o with
  | token t => exact bearer_redact t
  | failed e => rfl

end CallCredentials

namespace Credentials

variable {ρ : Type}

def Event.redact : Event ρ → Event ρ
  | .sent c i r wasReady => .sent c i r.redact wasReady
  | e => e

def Action.redact : Action ρ → Action ρ
  | .fetched c o => .fetched c o.redact
  | a => a

namespace State

variable {s s' : State ρ} {a a' : Action ρ}

/-- What an action leads to, if it can be done. -/
def act? (s : State ρ) : Action ρ → Option (State ρ)
  | .ready v => if v < s.services then some (s.ready v) else none
  | .clone v => if v < s.services then some (s.clone v) else none
  | .replace v => if v < s.services then some (s.replace v) else none
  | .call c v r => if v < s.services then s.call c v r else none
  | .begin c => s.begin c
  | .fetched c o => s.fetched c o
  | .expire c => s.expire c
  | .answer c x => s.answer c x
  | .drop c => s.drop c

theorem act?_eq_some_iff : s.act? a = some s' ↔ s.Move a s' := by
  constructor
  · intro h
    cases a with
    | ready v | clone v | replace v =>
      obtain ⟨hv, h⟩ := Option.ite_none_right_eq_some.1 h
      cases h
      first | exact .ready hv | exact .clone hv | exact .replace hv
    | call c v r =>
      obtain ⟨hv, h⟩ := Option.ite_none_right_eq_some.1 h
      exact .of_call hv h
    | begin c => exact .of_begin h
    | fetched c o => exact .of_fetched h
    | expire c => exact .of_expire h
    | answer c x => exact .of_answer h
    | drop c => exact .of_drop h
  · intro m
    cases m with
    | ready hv | clone hv | replace hv => exact if_pos hv
    | call hv hp => simp [act?, State.call, hv, hp]
    | refuse hp refused => simp [act?, State.begin, hp, refused]
    | ask hp passes source | pass hp passes source => simp [act?, State.begin, hp, passes, source]
    | attach hp ho | fail hp ho => simp [act?, State.fetched, hp, ho]
    | expire hp hd => simp [act?, State.expire, hp, hd]
    | answer x hp => simp [act?, State.answer, hp]
    | @drop c hp =>
      cases hq : s.phase c with
      | created | fetching | sent => simp [act?, State.drop, hq]
      | outside | done => rw [hq] at hp; cases hp

def perform (s : State ρ) (a : Action ρ) : State ρ := (s.act? a).getD s

/-- The state, with each request that was sent on without its authorization. -/
def redact (s : State ρ) : State ρ := { s with history := s.history.map Event.redact }

@[simp] theorem redact_redact (s : State ρ) : s.redact.redact = s.redact := by
  have twice (e : Event ρ) : e.redact.redact = e.redact := by
    cases e <;> simp [Event.redact]
  simp [redact, twice]

@[simp] theorem redact_note (s : State ρ) (e : Event ρ) : (s.note e).redact = s.redact.note e.redact := rfl

@[simp] theorem redact_goto (s : State ρ) (c : CallId) (p : Phase ρ) : (s.goto c p).redact = s.redact.goto c p := rfl

theorem log_eq_of_redact (same : s.redact = s'.redact) : s.log = s'.log := by
  change s.redact.log = s'.redact.log
  rw [same]

@[simp] theorem redact_phase (s : State ρ) (c : CallId) : s.redact.phase c = s.phase c := rfl

theorem redact_reject (s : State ρ) (c : CallId) (r : Request) (e : CredentialError) :
    (s.redact.reject c r e).redact = (s.reject c r e).redact :=
  congrArg (reject · c r e) s.redact_redact

theorem redact_forward (s : State ρ) (c : CallId) (i : InstanceId) {r r' : Request} (same : r.redact = r'.redact) :
    (s.redact.forward c i r).redact = (s.forward c i r').redact := by
  simp only [forward, redact_note, redact_goto, Event.redact, same]
  exact congrArg (fun t : State ρ => ((t.mark i false).goto c (.sent i)).note _) s.redact_redact

theorem redact_begin (s : State ρ) (c : CallId) : (s.redact.begin c).map redact = (s.begin c).map redact := by
  simp only [begin, redact_phase, show s.redact.credentials = s.credentials from rfl]
  cases s.phase c with
  | created i r =>
    dsimp only
    split
    · exact congrArg some (s.redact_reject c r .insecureTransport)
    · split
      · exact congrArg (fun t => some ((goto t c (.fetching i r)).note (.asked c))) s.redact_redact
      · exact congrArg some (s.redact_forward c i rfl)
  | outside | fetching | sent | done => rfl

theorem redact_fetched (s : State ρ) (c : CallId) (o : TokenOutcome) :
    (s.redact.fetched c o.redact).map redact = (s.fetched c o).map redact := by
  simp only [fetched, redact_phase]
  cases s.phase c with
  | fetching i r =>
    have same := CallCredentials.ofOutcome_redact o
    cases real : CallCredentials.ofOutcome o <;> cases blotted : CallCredentials.ofOutcome o.redact <;>
      rw [real, blotted] at same <;> cases same
    · exact congrArg some (s.redact_reject c r _)
    · exact congrArg some (s.redact_forward c i (by simp))
  | outside | created | sent | done => rfl

/-- What an action leads to is the same without the secrets if the action and the state before are. -/
theorem redact_act? (s : State ρ) (a : Action ρ) : (s.redact.act? a.redact).map redact = (s.act? a).map redact := by
  -- Other actions never look at what was sent on.
  have blind {f : State ρ → Option (State ρ)} (h : ∀ t, (f t).map redact = f t.redact) :
      (f s.redact).map redact = (f s).map redact := by
    rw [h, h, redact_redact]
  cases a with
  | begin c => exact s.redact_begin c
  | fetched c o => exact s.redact_fetched c o
  | ready v | clone v | replace v => exact blind (f := (act? · _)) fun t => apply_ite (Option.map redact) ..
  | call c v r =>
    refine blind (f := (act? · (.call c v r))) fun t => ?_
    refine (apply_ite (Option.map redact) ..).trans (congrArg (ite _ · none) ?_)
    simp only [call, redact_phase]
    cases t.phase c <;> rfl
  | expire c =>
    refine blind (f := (act? · (.expire c))) fun t => ?_
    simp only [act?, expire, redact_phase]
    cases t.phase c with
    | fetching i r => dsimp only; cases Grpc.timeout r.headers <;> rfl
    | outside | created | sent | done => rfl
  | answer c x =>
    refine blind (f := (act? · (.answer c x))) fun t => ?_
    simp only [act?, answer, redact_phase]
    cases t.phase c <;> rfl
  | drop c =>
    refine blind (f := (act? · (.drop c))) fun t => ?_
    simp only [act?, drop, redact_phase]
    cases t.phase c <;> rfl

theorem redact_perform (s : State ρ) (a : Action ρ) : (s.redact.perform a.redact).redact = (s.perform a).redact := by
  have same := s.redact_act? a
  unfold perform
  cases h : s.act? a <;> cases h' : s.redact.act? a.redact <;> rw [h, h'] at same
  · exact s.redact_redact
  · cases same
  · cases same
  · exact Option.some.inj same

end State

end Credentials

end IdentityClient
