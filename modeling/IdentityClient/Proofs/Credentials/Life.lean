import IdentityClient.Proofs.Credentials.Run

/-!
# The life of a call

`Life cr c p as h`: when call `c` stands in phase `p`, `as` is what can have been done about it and `h` what can have
happened to it. Between the two stands what fetching its header value has come to (`Fetch`): nothing is sent before,
and afterwards what is sent is the request with that value, or else the call has ended. Every call has lived like
that (`Run.life`).
-/

namespace IdentityClient

/-- The request with a header value, if there is one, as its only authorization. -/
def Request.carry (r : Request) : Option HeaderValue → Request
  | none => r
  | some h => r.authorize h

namespace Credentials

/-- The entries of a list that belong to call `c`. -/
def ownBy {β : Type} (call? : β → Option CallId) (c : CallId) (l : List β) : List β :=
  l.filter fun b => call? b = some c

section
variable {β : Type} {call? : β → Option CallId} {c : CallId} {b : β} {l : List β}

theorem mem_ownBy : b ∈ ownBy call? c l ↔ b ∈ l ∧ call? b = some c := by
  simp [ownBy]

theorem ownBy_cons_self (h : call? b = some c) : ownBy call? c (b :: l) = b :: ownBy call? c l := by
  simp [ownBy, h]

theorem ownBy_cons_of_ne (h : call? b ≠ some c) : ownBy call? c (b :: l) = ownBy call? c l := by
  simp [ownBy, h]

end

variable {ρ : Type}

/-- What has been done about call `c`. -/
abbrev doneTo (c : CallId) (as : List (Action ρ)) : List (Action ρ) := ownBy Action.call? c as

/-- What has happened to call `c`. -/
abbrev eventsOf (c : CallId) (h : List (Event ρ)) : List (Event ρ) := ownBy Event.call? c h

/-- Fetching the header value for request `r` of call `c`, which has taken instance `i` of service `v`, has come to
a value, to the need for none, or to an error. -/
inductive Fetch (cr : CallCredentials) (c : CallId) (v : ServiceId) (i : InstanceId) (r : Request) :
    Except CredentialError (Option HeaderValue) → List (Action ρ) → List (Event ρ) → Prop
  | refused : cr.refuses r.uri = true →
      Fetch cr c v i r (.error .insecureTransport) [.begin c, .call c v r] [.called c v i r]
  | unneeded : cr.refuses r.uri = false → cr.hasSource = false →
      Fetch cr c v i r (.ok none) [.begin c, .call c v r] [.called c v i r]
  | told (o : TokenOutcome) : cr.refuses r.uri = false → cr.hasSource = true →
      Fetch cr c v i r ((CallCredentials.ofOutcome o).map some) [.fetched c o, .begin c, .call c v r]
        [.asked c, .called c v i r]
  | late {d : Duration} : cr.refuses r.uri = false → cr.hasSource = true → Grpc.timeout r.headers = some d →
      Fetch cr c v i r (.error .deadline) [.expire c, .begin c, .call c v r] [.asked c, .called c v i r]

inductive Life (cr : CallCredentials) (c : CallId) : Phase ρ → List (Action ρ) → List (Event ρ) → Prop
  | outside : Life cr c .outside [] []
  | created (v : ServiceId) (i : InstanceId) (r : Request) :
      Life cr c (.created i r) [.call c v r] [.called c v i r]
  | fetching (v : ServiceId) (i : InstanceId) (r : Request) : cr.refuses r.uri = false → cr.hasSource = true →
      Life cr c (.fetching i r) [.begin c, .call c v r] [.asked c, .called c v i r]
  | sent {v : ServiceId} {i : InstanceId} {r : Request} {h : Option HeaderValue} {as : List (Action ρ)}
      {es : List (Event ρ)} (wasReady : Bool) : Fetch cr c v i r (.ok h) as es →
      Life cr c (.sent i) as (.sent c i (r.carry h) wasReady :: es)
  | rejected {v : ServiceId} {i : InstanceId} {r : Request} {e : CredentialError} {as : List (Action ρ)}
      {es : List (Event ρ)} : Fetch cr c v i r (.error e) as es →
      Life cr c .done as (.ended c (.rejected e) :: es)
  | answered {v : ServiceId} {i : InstanceId} {r : Request} {h : Option HeaderValue} {as : List (Action ρ)}
      {es : List (Event ρ)} (wasReady : Bool) (x : ρ) : Fetch cr c v i r (.ok h) as es →
      Life cr c .done (.answer c x :: as) (.ended c (.answered x) :: .sent c i (r.carry h) wasReady :: es)
  | dropped {p : Phase ρ} {as : List (Action ρ)} {es : List (Event ρ)} : Life cr c p as es → p.isOpen →
      Life cr c .done (.drop c :: as) (.dropped c :: es)

variable {cr : CallCredentials} {s s' : State ρ} {a : Action ρ} {as : List (Action ρ)} {es : List (Event ρ)}
  {c d : CallId} {v : ServiceId} {i : InstanceId} {r : Request} {p : Phase ρ}

namespace State

/-- What call `c` has lived through, when `as` has been done. -/
def Lived (s : State ρ) (c : CallId) (as : List (Action ρ)) : Prop :=
  Life s.credentials c (s.phase c) (doneTo c as) (eventsOf c s.history)

theorem Move.lived_of_ne (m : Move s a s') (h : a.call? ≠ some c) (l : s.Lived c as) : s'.Lived c (a :: as) := by
  have events : eventsOf c s'.history = eventsOf c s.history := by
    rcases m.history with hh | ⟨e, he, hh⟩
    · rw [hh]
    · rw [hh]
      exact ownBy_cons_of_ne (he ▸ h)
  unfold Lived
  rw [m.credentials, m.phase_of_ne h, events, doneTo, ownBy_cons_of_ne h]
  exact l

theorem Move.lived_self (m : Move s a s') (h : a.call? = some c) (l : s.Lived c as) : s'.Lived c (a :: as) := by
  -- Where the phase before is known, so is what has been lived through.
  have goes {p p' : Phase ρ} {e : Event ρ} (hp : s.phase c = p) (hp' : s'.phase c = p')
      (hh : s'.history = e :: s.history) (he : e.call? = some c)
      (step : ∀ as es, Life s.credentials c p as es → Life s.credentials c p' (a :: as) (e :: es)) :
      s'.Lived c (a :: as) := by
    unfold Lived at l ⊢
    rw [m.credentials, hp', hh, doneTo, ownBy_cons_self h, eventsOf, ownBy_cons_self he]
    exact step _ _ (hp ▸ l)
  cases m with
  | ready | clone | replace => cases h
  | call _ hp =>
    cases h
    refine goes hp (goto_phase_self ..) rfl rfl fun as es l => ?_
    cases l
    exact .created _ _ _
  | refuse hp refused =>
    cases h
    refine goes hp (goto_phase_self ..) rfl rfl fun as es l => ?_
    cases l
    exact .rejected (.refused refused)
  | ask hp passes source =>
    cases h
    refine goes hp (goto_phase_self ..) rfl rfl fun as es l => ?_
    cases l
    exact .fetching _ _ _ passes source
  | pass hp passes source =>
    cases h
    refine goes hp (goto_phase_self ..) rfl rfl fun as es l => ?_
    cases l
    exact .sent (h := none) _ (.unneeded passes source)
  | @attach _ i r o x hp ho =>
    cases h
    refine goes hp (goto_phase_self ..) rfl rfl fun as es l => ?_
    cases l with
    | fetching v _ _ passes source =>
      have told := Fetch.told (c := c) (v := v) (i := i) (r := r) (ρ := ρ) o passes source
      rw [ho] at told
      exact .sent (h := some x) _ told
  | @fail _ i r o e hp ho =>
    cases h
    refine goes hp (goto_phase_self ..) rfl rfl fun as es l => ?_
    cases l with
    | fetching v _ _ passes source =>
      have told := Fetch.told (c := c) (v := v) (i := i) (r := r) (ρ := ρ) o passes source
      rw [ho] at told
      exact .rejected told
  | expire hp limit =>
    cases h
    refine goes hp (goto_phase_self ..) rfl rfl fun as es l => ?_
    cases l with
    | fetching v _ _ passes source => exact .rejected (.late passes source limit)
  | answer x hp =>
    cases h
    refine goes hp (goto_phase_self ..) rfl rfl fun as es l => ?_
    cases l with
    | sent w f => exact .answered w x f
  | drop hq =>
    cases h
    refine goes rfl (goto_phase_self ..) rfl rfl fun as es l => ?_
    exact .dropped l hq

end State

theorem Run.life (run : Run cr as s) (c : CallId) : Life cr c (s.phase c) (doneTo c as) (eventsOf c s.history) := by
  have lived : s.Lived c as := by
    induction run with
    | initial => exact .outside
    | @step _ _ _ a _ m ih =>
      by_cases h : a.call? = some c
      · exact m.lived_self h ih
      · exact m.lived_of_ne h ih
  rw [State.Lived, run.credentials] at lived
  exact lived

end Credentials

end IdentityClient
