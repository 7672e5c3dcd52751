import IdentityClient.Proofs.Auth.Init
import IdentityClient.Proofs.Secrets.Refreshing

/-!
# Token sources made with other secrets

Settings, and worlds, are alike if they are the same but for secrets of the same use (`SameUse`, `ServiceKey.Alike`,
`HttpOutcome.Alike`). Alike procedures in alike worlds do the same but for the secrets in what they send and receive
(`Procedure.Alike.run`): they log the same. Making a token source is such a procedure (`Auth.Alike.init`), and so is an
exchange (`Exchange.Alike.run`).
-/

namespace IdentityClient

open List (Forall₂)

/-- Two secrets that can be used for the same: neither is empty, or both are; a header can carry both, or neither. -/
structure SameUse (s s' : String) : Prop where
  empty : s = "" ↔ s' = ""
  fits : Printable (AccessToken.bearer s).bearerBytes ↔ Printable (AccessToken.bearer s').bearerBytes

theorem SameUse.of_valid {s s' : String} (filled : s ≠ "") (filled' : s' ≠ "") (fits : AccessToken.fitsHeader s)
    (fits' : AccessToken.fitsHeader s') : SameUse s s' :=
  ⟨⟨fun h => absurd h filled, fun h => absurd h filled'⟩, ⟨fun _ => printable_iff.2 fits', fun _ => printable_iff.2 fits⟩⟩

theorem SameUse.redact {s s' : String} (h : SameUse s s') : (AccessToken.bearer s).redact = (AccessToken.bearer s').redact :=
  AccessToken.redact_eq_iff.2 ⟨rfl, h.fits⟩

/-- Two results that are both good, and related, or the same error. -/
inductive SameEnd {ε α β : Type} (R : α → β → Prop) : Except ε α → Except ε β → Prop where
  | ok {a : α} {b : β} (related : R a b) : SameEnd R (.ok a) (.ok b)
  | error (e : ε) : SameEnd R (.error e) (.error e)

/-! ### Settings -/

/-- Two keys of one owner and identifier, with the same text or both with a text that is good for signing. -/
structure ServiceKey.Alike (k k' : ServiceKey) : Prop where
  keyId : k.keyId = k'.keyId
  userId : k.userId = k'.userId
  clientId : k.clientId = k'.clientId
  key : k.key = k'.key ∨ k.Usable ∧ k'.Usable

theorem ServiceKey.Alike.render {k k' : ServiceKey} (h : k.Alike k') : k.render = k'.render := by
  rw [ServiceKey.render, ServiceKey.render, subject, subject, h.keyId, h.userId, h.clientId]

inductive Grant.Alike : Grant → Grant → Prop where
  | assertion {k k' : ServiceKey} {bytes bytes' : Bytes} (audience : String) (key : k.Alike k')
      (encoded : k.signingKey = .ok bytes) (encoded' : k'.signingKey = .ok bytes') :
      Alike (.assertion k bytes audience) (.assertion k' bytes' audience)
  | clientCredentials (user secret secret' : String) :
      Alike (.clientCredentials ⟨user, secret⟩) (.clientCredentials ⟨user, secret'⟩)

theorem Grant.Alike.request {g g' : Grant} (h : g.Alike g') (scope : String) (date : Nat) :
    SameEnd (fun _ _ => True) (g.request scope date) (g'.request scope date) := by
  cases h with
  | @assertion k k' bytes bytes' audience key encoded encoded' =>
    rcases key.key with same | ⟨usable, usable'⟩
    · obtain rfl : k = k' := by
        cases k; cases k'
        obtain ⟨rfl, rfl, rfl, -⟩ := key
        cases same
        rfl
      obtain rfl := Except.ok.inj (encoded.symm.trans encoded')
      cases (Grant.assertion k bytes audience).request scope date with
      | error e => exact .error e
      | ok form => exact .ok trivial
    · obtain ⟨text, signed⟩ := ServiceKey.exists_sign usable encoded audience date
      obtain ⟨text', signed'⟩ := ServiceKey.exists_sign usable' encoded' audience date
      rw [Grant.request, Grant.request, signed, signed']
      exact .ok trivial
  | clientCredentials user secret secret' => exact .ok trivial

theorem Auth.keyGrant_alike {k k' : ServiceKey} (h : k.Alike k') (audience : String) :
    SameEnd Grant.Alike (keyGrant k audience) (keyGrant k' audience) := by
  unfold keyGrant
  rcases h.key with same | ⟨⟨bytes, _, encoded, -⟩, bytes', _, encoded', -⟩
  · have both : k'.signingKey = k.signingKey := congrArg rsaKeyBytes same.symm
    rw [both]
    cases encoded : k.signingKey with
    | error fault => exact .error _
    | ok bytes => exact .ok (.assertion audience h encoded (both.trans encoded))
  · rw [encoded, encoded']
    exact .ok (.assertion audience h encoded encoded')

structure Exchange.Alike (x x' : Exchange) : Prop where
  grant : x.grant.Alike x'.grant
  scope : x.scope = x'.scope
  endpoint : x.endpoint = x'.endpoint

theorem Exchange.Alike.render {x x' : Exchange} (h : x.Alike x') (endpoint : String) :
    x.render endpoint = x'.render endpoint := by
  obtain ⟨grant, scope, -⟩ := h
  unfold Exchange.render
  generalize x.grant = g at grant
  generalize x'.grant = g' at grant
  cases grant with
  | assertion audience key => simp only [key.render, scope]
  | clientCredentials => simp only [scope]

inductive TokenSource.Alike : TokenSource → TokenSource → Prop where
  | fixed {t t' : AccessToken} (token : t.redact = t'.redact) : Alike (.fixed t) (.fixed t')
  | refreshing {x x' : Exchange} {s s' : Refreshing.State} (exchange : x.Alike x') (state : s.redact = s'.redact) :
      Alike (.refreshing x s) (.refreshing x' s')
  | supplied {answer answer' : Nat → TokenOutcome} (calls : Nat)
      (answers : ∀ n, (answer n).redact = (answer' n).redact) : Alike (.supplied answer calls) (.supplied answer' calls)

/-! ### The outside -/

/-- Two requests that are the same, up to the secrets in their headers and bodies. -/
structure HttpRequest.Alike (r r' : HttpRequest) : Prop where
  method : r.method = r'.method
  url : r.url = r'.url
  acceptAnyCertificate : r.acceptAnyCertificate = r'.acceptAnyCertificate
  limit : r.limit = r'.limit

/-- The token response in a reply, if there is one. -/
def HttpReply.tokenResponse? (r : HttpReply) : Option Json.Record :=
  (r.body.map (Json.recordOfBytes TokenEndpoint.tokenSchema)).bind (·.toOption)

/-- Two answers to a request of a method that are the same or, if it was posted, both hold a token response, the same
but for the access token. -/
inductive HttpOutcome.Alike (method : HttpMethod) : HttpOutcome → HttpOutcome → Prop where
  | same (o : HttpOutcome) : Alike method o o
  | granted {r r' : HttpReply} {x y : Json.Record} (post : method = .post) (status : r.status = r'.status)
      (success : r.status.isSuccess) (read : r.tokenResponse? = some x) (read' : r'.tokenResponse? = some y)
      (type : x.text? "token_type" = y.text? "token_type") (lifetime : x.word? "expires_in" = y.word? "expires_in")
      (secret : SameUse (x.text "access_token") (y.text "access_token")) : Alike method (.replied r) (.replied r')

inductive Event.Alike : Event → Event → Prop where
  | logged (r : LogRecord) : Alike (.logged r) (.logged r)
  | clock (m : Moment) : Alike (.clock m) (.clock m)
  | sent {r r' : HttpRequest} {o o' : HttpOutcome} (request : r.Alike r') (outcome : o.Alike r.method o') :
      Alike (.sent r o) (.sent r' o')
  | connected (t : ConnectTarget) (e : ConnectEnd) : Alike (.connected t e) (.connected t e)

theorem Event.records_eq {es es' : List Event} (h : Forall₂ Alike es es') : records es = records es' := by
  unfold records
  congr 1
  induction h with
  | nil => rfl
  | cons here _ ih => cases here <;> simp [ih]

/-- Two worlds that give alike answers where what went before is alike. -/
structure World.Alike (w w' : World) : Prop where
  clock {past past' : List Event} : Forall₂ Event.Alike past past' → w.clock past = w'.clock past'
  reply {past past' : List Event} {r r' : HttpRequest} : Forall₂ Event.Alike past past' → r.Alike r' →
    (w.reply past r).Alike r.method (w'.reply past' r')
  connect {past past' : List Event} (t : ConnectTarget) : Forall₂ Event.Alike past past' →
    w.connect past t = w'.connect past' t

namespace Procedure

variable {α β : Type} {R : α → α → Prop} {S : β → β → Prop} {p p' : Procedure α} {f f' : α → Procedure β}

/-- The procedures do alike things for alike reasons, and what they give is related by `R`. -/
inductive Alike (R : α → α → Prop) : Procedure α → Procedure α → Prop where
  | done {a a' : α} (related : R a a') : Alike R (.done a) (.done a')
  | log (r : LogRecord) {p p' : Procedure α} (later : Alike R p p') : Alike R (.log r p) (.log r p')
  | clock {k k' : Moment → Procedure α} (later : ∀ m, Alike R (k m) (k' m)) : Alike R (.clock k) (.clock k')
  | send {r r' : HttpRequest} {k k' : HttpOutcome → Procedure α} (request : r.Alike r')
      (later : ∀ o o', o.Alike r.method o' → Alike R (k o) (k' o')) : Alike R (.send r k) (.send r' k')
  | connect (t : ConnectTarget) {k k' : ConnectEnd → Procedure α} (later : ∀ e, Alike R (k e) (k' e)) :
      Alike R (.connect t k) (.connect t k')

theorem Alike.bind (h : Alike R p p') (later : ∀ a a', R a a' → Alike S (f a) (f' a')) :
    Alike S (p.bind f) (p'.bind f') := by
  induction h with
  | done related => exact later _ _ related
  | log r _ ih => exact .log r ih
  | clock _ ih => exact .clock ih
  | send request _ ih => exact .send request ih
  | connect t _ ih => exact .connect t ih

/-- In alike worlds, alike procedures meet alike events. -/
theorem Alike.run (h : Alike R p p') {w w' : World} (worlds : w.Alike w') {past past' : List Event}
    (before : Forall₂ Event.Alike past past') :
    Forall₂ Event.Alike (p.run w past).1 (p'.run w' past').1 ∧ R (p.run w past).2 (p'.run w' past').2 := by
  induction h generalizing past past' with
  | done related => exact ⟨before, related⟩
  | log r _ ih => exact ih (.cons (.logged r) before)
  | @clock k k' _ ih =>
    simp only [Procedure.run]
    rw [← worlds.clock before]
    exact ih _ (.cons (.clock _) before)
  | send request _ ih =>
    have answers := worlds.reply before request
    exact ih _ _ answers (.cons (.sent request answers) before)
  | @connect t k k' _ ih =>
    simp only [Procedure.run]
    rw [← worlds.connect t before]
    exact ih _ (.cons (.connected t _) before)

end Procedure

/-! ### What is made of replies -/

namespace TokenEndpoint

theorem tokenOfResponse_alike {x y : Json.Record} (now : Instant) (type : x.text? "token_type" = y.text? "token_type")
    (lifetime : x.word? "expires_in" = y.word? "expires_in")
    (secret : SameUse (x.text "access_token") (y.text "access_token")) :
    (tokenOfResponse now x).redact = (tokenOfResponse now y).redact := by
  unfold tokenOfResponse
  simp only [type, lifetime, secret.empty]
  split
  · rfl
  · split
    · rfl
    · cases y.word? "expires_in" with
      | none => exact congrArg TokenOutcome.token secret.redact
      | some secs =>
        refine congrArg TokenOutcome.token ?_
        rw [AccessToken.redact_expiresIn, AccessToken.redact_expiresIn, secret.redact]

theorem readReply_alike {method : HttpMethod} {r r' : HttpReply}
    (h : HttpOutcome.Alike method (.replied r) (.replied r')) (now : Instant) :
    (readReply now r).redact = (readReply now r').redact := by
  cases h with
  | same => rfl
  | granted _ status success read read' type lifetime secret =>
    have success' : r'.status.isSuccess := status ▸ success
    unfold HttpReply.tokenResponse? at read read'
    rw [readReply, readReply, if_pos success, if_pos success', read, read']
    exact tokenOfResponse_alike now type lifetime secret

/-- Whether a request can be posted, and else why not, does not depend on what is posted. -/
theorem post_alike (e : TokenEndpoint) (t t' : TokenRequest) : SameEnd HttpRequest.Alike (e.post t) (e.post t') := by
  unfold post
  cases HttpRequest.ofUrl .post e.url e.acceptAnyCertificate with
  | error fault => exact .error fault
  | ok r => refine .ok ?_; cases t.basic <;> cases t'.basic <;> exact ⟨rfl, rfl, rfl, rfl⟩

theorem ask_alike (e : TokenEndpoint) (t t' : TokenRequest) :
    (e.ask t).Alike (fun o o' => o.redact = o'.redact) (e.ask t') := by
  have posts := e.post_alike t t'
  unfold ask
  generalize e.post t = made at posts
  generalize e.post t' = made' at posts
  cases posts with
  | error fault => exact .done rfl
  | ok request =>
    refine .send request fun o o' answers => ?_
    cases o with
    | unanswered =>
      cases answers
      rw [request.url]
      exact .done rfl
    | replied reply =>
      cases o' with
      | unanswered => cases answers
      | replied reply' => exact .clock fun now => .done (readReply_alike answers now.clock)

end TokenEndpoint

theorem Exchange.Alike.run {x x' : Exchange} (h : x.Alike x') :
    x.run.Alike (fun o o' => o.redact = o'.redact) x'.run := by
  refine .clock fun now => ?_
  have forms := h.grant.request x.scope now.date
  rw [← h.scope, ← h.endpoint]
  generalize x.grant.request x.scope now.date = form at forms
  generalize x'.grant.request x.scope now.date = form' at forms
  cases forms with
  | error fault => exact .done rfl
  | ok => exact x.endpoint.ask_alike _ _

theorem Discovery.run_alike (i : Issuer) : (run i).Alike (SameEnd Eq) (run i) := by
  unfold run
  cases asks : request i with
  | error fault => exact .done (.error _)
  | ok r =>
    refine .send ⟨rfl, rfl, rfl, rfl⟩ fun o o' answers => ?_
    -- What is not posted gets the same answer.
    obtain rfl : o = o' := by
      cases answers with
      | same => rfl
      | granted post =>
        rw [(request_eq_ok asks).1] at post
        cases post
    cases o with
    | unanswered => exact .done (.error _)
    | replied reply =>
      dsimp only
      cases readReply r reply with
      | error e => exact .done (.error e)
      | ok endpoint => exact .log _ (.done (.ok rfl))

namespace TokenSource

theorem exchanged_redact (o : TokenOutcome) : exchanged o.redact = exchanged o := by
  cases o <;> rfl

theorem prime_alike {x x' : Exchange} (h : x.Alike x') : (prime x).Alike (SameEnd TokenSource.Alike) (prime x') := by
  refine h.run.bind fun o o' same => ?_
  rw [← exchanged_redact o, ← exchanged_redact o', same]
  refine .log _ ?_
  cases o with
  | failed e =>
    cases o' with
    | failed e' => cases same; exact .done (.error e)
    | token t' => cases same
  | token t =>
    cases o' with
    | failed e' => cases same
    | token t' =>
      have token : t.redact = t'.redact := TokenOutcome.token.inj same
      refine .clock fun now => .done (.ok (.refreshing h ?_))
      rw [Refreshing.State.redact_primed, Refreshing.State.redact_primed, token]

end TokenSource

namespace Auth

theorem exchanging_alike {g g' : Except TokenError Grant} (i : Issuer) (scopes : List String)
    (grants : SameEnd Grant.Alike g g') :
    (exchanging i scopes g).Alike (SameEnd TokenSource.Alike) (exchanging i scopes g') := by
  refine (Discovery.run_alike i).bind fun found found' same => ?_
  cases same with
  | error e => exact .done (.error e)
  | ok same =>
    subst same
    cases grants with
    | error e => exact .done (.error e)
    | ok grant => exact TokenSource.prime_alike ⟨grant, rfl, rfl⟩

/-- Two settings that are the same but for their secrets. What a caller's own code makes of alike answers is alike. -/
inductive Alike : Auth → Auth → Prop where
  | personalAccessToken {token token' : String} (secret : SameUse token token') :
      Alike (.personalAccessToken token) (.personalAccessToken token')
  | jwtProfile {k k' : ServiceKey} (scopes : List String) (key : k.Alike k') :
      Alike (.jwtProfile k scopes) (.jwtProfile k' scopes)
  | password (user secret secret' : String) (scopes : List String) :
      Alike (.password ⟨user, secret⟩ scopes) (.password ⟨user, secret'⟩ scopes)
  | custom {init init' : Issuer → Procedure (Except TokenError TokenSource)}
      (inits : ∀ i, (init i).Alike (SameEnd TokenSource.Alike) (init' i)) : Alike (.custom init) (.custom init')

variable {a a' : Auth}

theorem Alike.kind (h : a.Alike a') : a.kind = a'.kind := by
  cases h <;> rfl

theorem Alike.render (h : a.Alike a') : a.render = a'.render := by
  cases h with
  | jwtProfile scopes key => rw [Auth.render, Auth.render, key.render]
  | personalAccessToken | password | custom => rfl

theorem Alike.init (h : a.Alike a') (i : Issuer) : (a.init i).Alike (SameEnd TokenSource.Alike) (a'.init i) := by
  unfold Auth.init initializing
  rw [h.kind]
  refine .log _ ?_
  cases h with
  | @personalAccessToken token token' secret =>
    refine .done ?_
    simp only [secret.empty]
    split
    · exact .error _
    · exact .ok (.fixed secret.redact)
  | jwtProfile scopes key =>
    simp only [source]
    exact exchanging_alike i scopes (keyGrant_alike key i.origin)
  | password user secret secret' scopes =>
    simp only [source]
    exact exchanging_alike i scopes (.ok (.clientCredentials user secret secret'))
  | custom inits => exact inits i

end Auth

end IdentityClient
