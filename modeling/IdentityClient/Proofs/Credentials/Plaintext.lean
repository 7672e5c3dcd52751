import IdentityClient.Proofs.Credentials.Bearer
import IdentityClient.Simulation.Calls

/-!
# Plaintext targets

Credentials that need TLS refuse one scheme, `http`; they do not ask for another, and a target with any other scheme
or with none is given its bearer value. What is refused comes to nothing: the token source is not asked and the inner
service not called.
-/

namespace IdentityClient

namespace CallCredentials

variable {cr : CallCredentials} {uri : Uri} {o : TokenOutcome}

theorem refuses_iff (tls : cr.requiresTls = true) : cr.refuses uri = true ↔ uri.scheme = some .http := by
  simp [refuses, tls]

/-- What the token source answers never comes to a refusal. -/
theorem ofOutcome_ne_insecure : (ofOutcome o).map some ≠ .error .insecureTransport := by
  intro h
  cases o with
  | failed e => cases h
  | token t =>
    rw [ofOutcome, bearer] at h
    split at h <;> cases h

end CallCredentials

namespace Simulation

variable {source : Option Source} {now : Instant} {uri : Uri} {tls : Bool}

theorem metadata_of_http (h : uri.scheme = some .http) :
    metadata true source now uri = (some (.error .insecureTransport), source, now) := by
  simp [metadata, CallCredentials.refuses, h]

theorem metadata_of_passes (s : Source) (passes : CallCredentials.refuses ⟨tls, true⟩ uri = false) :
    metadata tls (some s) now uri = ((s.ask now none).outcome.map fun o => (CallCredentials.ofOutcome o).map some,
      some (s.ask now none).source, (s.ask now none).at_.getD now) := by
  have each : CallCredentials.metadata ⟨tls, true⟩ uri = fun o => (CallCredentials.ofOutcome o).map some := by
    funext o
    simp [CallCredentials.metadata, passes]
  simp [metadata, passes, each]

theorem metadata_of_ne_http (h : uri.scheme ≠ some .http) :
    (metadata true source now uri).1 ≠ some (.error .insecureTransport) := by
  have passes (source : Bool) : CallCredentials.refuses ⟨true, source⟩ uri = false := by
    simp [CallCredentials.refuses, h]
  cases source with
  | none => simp [metadata, passes]
  | some source =>
    rw [metadata_of_passes source (passes true)]
    intro insecure
    obtain ⟨o, -, ho⟩ := Option.map_eq_some_iff.1 insecure
    exact CallCredentials.ofOutcome_ne_insecure ho

end Simulation

namespace Credentials

variable {ρ : Type} {cr : CallCredentials} {s : State ρ} {as : List (Action ρ)} {es : List (Event ρ)} {c : CallId}
  {v : ServiceId} {i : InstanceId} {r : Request} {p : Phase ρ} {w : Bool} {res : Result ρ}

theorem carry_uri (r : Request) (o : Option HeaderValue) : (r.carry o).uri = r.uri := by
  cases o <;> rfl

namespace Fetch

variable {m : Except CredentialError (Option HeaderValue)}

theorem not_sent {d : CallId} {j : InstanceId} {r' : Request} (f : Fetch cr c v i r m as es) :
    .sent d j r' w ∉ es := by
  cases f <;> simp

theorem of_refused {v' : ServiceId} {r' : Request} (f : Fetch cr c v i r m as es) (made : .call c v' r' ∈ as)
    (refused : cr.refuses r'.uri = true) : m = .error .insecureTransport ∧ es = [.called c v' i r'] := by
  obtain ⟨rfl, rfl⟩ := f.of_call made
  cases f with
  | refused => exact ⟨rfl, rfl⟩
  | unneeded passes | told _ passes | late passes => rw [refused] at passes; cases passes

theorem passes {o : Option HeaderValue} (f : Fetch cr c v i r (.ok o) as es) : cr.refuses r.uri = false := by
  generalize hm : Except.ok o = m at f
  cases f with
  | refused | late => cases hm
  | unneeded passes | told _ passes => exact passes

end Fetch

namespace Life

/-- What is sent has been fetched for. -/
theorem of_sent (l : Life cr c p as es) (h : .sent c i r w ∈ es) :
    ∃ v r₀ o as' es' later, Fetch cr c v i r₀ (.ok o) as' es' ∧ r = r₀.carry o ∧
      es = later ++ .sent c i r w :: es' := by
  induction l with
  | outside | created | fetching => simp at h
  | rejected f => simp [f.not_sent] at h
  | @sent _ _ _ o _ _ _ f =>
    obtain ⟨rfl, rfl, rfl⟩ : i = _ ∧ r = _ ∧ w = _ := by simpa [f.not_sent] using h
    exact ⟨_, _, o, _, _, [], f, rfl, rfl⟩
  | @answered _ _ _ o _ _ _ x f =>
    obtain ⟨rfl, rfl, rfl⟩ : i = _ ∧ r = _ ∧ w = _ := by simpa [f.not_sent] using h
    exact ⟨_, _, o, _, _, [.ended c (.answered x)], f, rfl, rfl⟩
  | dropped _ _ ih =>
    obtain ⟨v, r₀, o, as', es', later, f, hr, rfl⟩ := ih (by simpa using h)
    exact ⟨v, r₀, o, as', es', .dropped c :: later, f, hr, rfl⟩

theorem open_of_refused (l : Life cr c p as es) (open_ : p.isOpen) (made : .call c v r ∈ as)
    (refused : cr.refuses r.uri = true) : ∃ i, es = [.called c v i r] := by
  cases l with
  | outside | rejected | answered | dropped => cases open_
  | created v' i r' =>
    obtain ⟨rfl, rfl⟩ : v = v' ∧ r = r' := by simpa using made
    exact ⟨i, rfl⟩
  | fetching v' i r' passes =>
    obtain ⟨rfl, rfl⟩ : v = v' ∧ r = r' := by simpa using made
    rw [refused] at passes; cases passes
  | sent _ f => cases (f.of_refused made refused).1

/-- A call that is refused has no more than been made, or been rejected or given up after that. -/
theorem of_refused (l : Life cr c p as es) (made : .call c v r ∈ as) (refused : cr.refuses r.uri = true) :
    ∃ i, es = [.called c v i r] ∨ es = [.ended c (.rejected .insecureTransport), .called c v i r] ∨
      es = [.dropped c, .called c v i r] := by
  by_cases open_ : p.isOpen
  · obtain ⟨i, he⟩ := l.open_of_refused open_ made refused
    exact ⟨i, .inl he⟩
  · cases l with
    | created | fetching | sent => exact absurd rfl open_
    | outside => simp at made
    | answered _ _ f => cases (f.of_refused (by simpa using made) refused).1
    | @rejected _ i _ _ _ _ f =>
      obtain ⟨he, rfl⟩ := f.of_refused made refused
      cases he
      exact ⟨i, .inr (.inl rfl)⟩
    | dropped l was_open =>
      obtain ⟨i, rfl⟩ := l.open_of_refused was_open (by simpa using made) refused
      exact ⟨i, .inr (.inr rfl)⟩

end Life

namespace State

theorem begin_of_refused (h : s.phase c = .created i r) (refused : s.credentials.refuses r.uri = true) :
    s.begin c = some (s.reject c r .insecureTransport) := by
  simp [State.begin, h, refused]

@[simp] theorem result?_reject (s : State ρ) (c : CallId) (r : Request) (e : CredentialError) :
    (s.reject c r e).result? c = some (.rejected e) := by
  simp [result?, reject, note]

end State

namespace Run

theorem refused (run : Run cr as s) (made : .call c v r ∈ as) (refused : cr.refuses r.uri = true) :
    s.asks c = 0 ∧ s.sent c = [] ∧ ∀ res, .ended c res ∈ s.history → res = .rejected .insecureTransport := by
  have made' : .call c v r ∈ doneTo c as := mem_ownBy.2 ⟨made, rfl⟩
  have ended' {res : Result ρ} (h : .ended c res ∈ s.history) : .ended c res ∈ eventsOf c s.history :=
    mem_ownBy.2 ⟨h, rfl⟩
  rw [s.asks_eq, s.sent_eq]
  obtain ⟨i, he | he | he⟩ := (run.life c).of_refused made' refused
  all_goals
    rw [he] at ended' ⊢
    exact ⟨rfl, rfl, fun res h => by simpa using ended' h⟩

theorem not_insecure (run : Run cr as s) (made : .call c v r ∈ as) (passes : cr.refuses r.uri = false)
    (ended : .ended c res ∈ s.history) : res ≠ .rejected .insecureTransport := by
  obtain ⟨-, m, fetched, settled⟩ := run.settled made ended
  cases fetched with
  | refused refused => rw [passes] at refused; cases refused
  | unneeded =>
    obtain ⟨-, x, -, rfl⟩ := settled
    nofun
  | bearer =>
    obtain ⟨-, x, -, rfl⟩ := settled
    nofun
  | unfit | failed | late =>
    obtain ⟨-, rfl, -⟩ := settled
    nofun

theorem sent_passes (run : Run cr as s) (h : .sent c i r w ∈ s.history) : cr.refuses r.uri = false := by
  have own : .sent c i r w ∈ eventsOf c s.history := mem_ownBy.2 ⟨h, rfl⟩
  obtain ⟨v, r₀, o, as', es', later, f, rfl, -⟩ := (run.life c).of_sent own
  rw [carry_uri]
  exact f.passes

/-- To targets that are not `https`, with no scheme or one of their own, credentials that need TLS give the bearer
value, and the inner service gets it. -/
theorem other_schemes_get_bearer :
    let targets : List Uri := [⟨none, none, ⟨"/svc/Method", none⟩⟩,
      ⟨some (.other "grpc"), some "id.example.com", ⟨"/svc/Method", none⟩⟩]
    let source : Simulation.Source := .fixed (.bearer "tok")
    let value : HeaderValue := ⟨Utf8.encode "Bearer tok", true⟩
    ∀ uri ∈ targets, uri.scheme ≠ some .https ∧
      Simulation.metadata true source ⟨0⟩ uri = (some (.ok value), some source, ⟨0⟩) ∧
        ∃ (s : State Nat) (r : Request), r.uri = uri ∧
          Run ⟨true, true⟩ [.fetched 0 (.token (.bearer "tok")), .begin 0, .call 0 0 r, .ready 0] s ∧
          s.sent 0 = [(r.authorize value, true)] := by
  intro targets source value uri target
  let cr : CallCredentials := ⟨true, true⟩
  let r : Request := ⟨"POST", uri, [], []⟩
  obtain ⟨scheme, passes⟩ : uri.scheme ≠ some .https ∧ cr.refuses uri = false := by
    revert uri target
    decide
  have outcome : CallCredentials.ofOutcome (.token (.bearer "tok")) = .ok value := rfl
  have called := Run.first_call (ρ := Nat) cr r
  have asked := called.step (.ask (c := 0) (i := 0) (r := r) rfl passes rfl)
  have run := asked.step (.attach (c := 0) (i := 0) (r := r) rfl outcome)
  refine ⟨scheme, ?_, _, r, rfl, run, rfl⟩
  rw [Simulation.metadata_of_passes source passes]
  rfl

/-- Credentials that need TLS refuse an `http` target and no other. A call to one does not ask the token source and
sends nothing, and its next step ends it with a status that says why. -/
theorem plaintext_is_refused (tls : cr.requiresTls = true) (run : Run cr as s) :
    (∀ source now uri, uri.scheme = some .http →
      Simulation.metadata true source now uri = (some (.error .insecureTransport), source, now)) ∧
    (∀ source now uri, uri.scheme ≠ some .http →
      (Simulation.metadata true source now uri).1 ≠ some (.error .insecureTransport)) ∧
    (∀ c v r, .call c v r ∈ as → r.uri.scheme = some .http →
      s.asks c = 0 ∧ s.sent c = [] ∧ ∀ res, .ended c res ∈ s.history → res = .rejected .insecureTransport) ∧
    (∀ c i r, s.phase c = .created i r → r.uri.scheme = some .http →
      ∃ s', s.begin c = some s' ∧ s'.result? c = some (.rejected .insecureTransport)) ∧
    (∀ c v r res, .call c v r ∈ as → r.uri.scheme ≠ some .http → .ended c res ∈ s.history →
      res ≠ .rejected .insecureTransport) ∧
    (∀ c i r w, .sent c i r w ∈ s.history → r.uri.scheme ≠ some .http) ∧
    CredentialError.insecureTransport.status =
      ⟨.unauthenticated, "credentials require transport level security"⟩ := by
  have refused_iff (uri : Uri) : cr.refuses uri = true ↔ uri.scheme = some .http := CallCredentials.refuses_iff tls
  have passes_iff (uri : Uri) : cr.refuses uri = false ↔ uri.scheme ≠ some .http := by
    rw [← Bool.not_eq_true, refused_iff]
  refine ⟨fun _ _ _ => Simulation.metadata_of_http, fun _ _ _ => Simulation.metadata_of_ne_http, ?_, ?_, ?_, ?_, rfl⟩
  · intro c v r made http
    exact run.refused made ((refused_iff r.uri).2 http)
  · intro c i r created http
    have refused : s.credentials.refuses r.uri = true := run.credentials ▸ (refused_iff r.uri).2 http
    exact ⟨_, State.begin_of_refused created refused, s.result?_reject c r _⟩
  · intro c v r res made other ended
    exact run.not_insecure made ((passes_iff r.uri).2 other) ended
  · intro c i r w sent
    exact (passes_iff r.uri).1 (run.sent_passes sent)

theorem plaintext_is_refused_when_called :
    let r : Request := ⟨"POST", ⟨some .http, some "id.example.com", ⟨"/svc/Method", none⟩⟩, [], []⟩
    ∃ s : State Nat, Run ⟨true, true⟩ [.begin 0, .call 0 0 r, .ready 0] s ∧
      .ended 0 (.rejected .insecureTransport) ∈ s.history ∧ s.asks 0 = 0 ∧ s.sent 0 = [] := by
  intro r
  have called := Run.first_call (ρ := Nat) ⟨true, true⟩ r
  have run := called.step (.refuse (c := 0) (i := 0) (r := r) rfl rfl)
  obtain ⟨asks, sent, -⟩ := (plaintext_is_refused rfl run).2.2.1 0 0 r (by simp) rfl
  exact ⟨_, run, List.mem_cons_self, asks, sent⟩

end Run

end Credentials

end IdentityClient
