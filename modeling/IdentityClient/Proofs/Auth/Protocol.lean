import IdentityClient.Proofs.Auth.Init
import IdentityClient.Proofs.Provider.Discovery
import IdentityClient.Proofs.Refreshing.Primed
import IdentityClient.Proofs.TokenSource

/-!
# The protocol that a client keeps to

What is sent to make a token source comes in order: the request for the discovery document, then the first exchange, which
goes where that document says, and nothing after a step that failed (`Auth.Protocol`). After that, calls for the token send nothing while the first one is
fresh, and later exchanges are made as the first one was (`Auth.Follows`).
-/

namespace IdentityClient

open Event (sends)

namespace Auth

variable {a : Auth} {i : Issuer} {scopes : List String} {grant : Except TokenError Grant}
  {sent : List (HttpRequest × HttpOutcome)} {r : Except TokenError TokenSource}

/-! ### Settings for which tokens are exchanged -/

/-- The scopes and the grant of a setting for which tokens are exchanged. -/
def granting? (a : Auth) (i : Issuer) : Option (List String × Except TokenError Grant) :=
  match a with
  | .jwtProfile key scopes => some (scopes, keyGrant key i.origin)
  | .password client scopes => some (scopes, .ok (.clientCredentials client))
  | .personalAccessToken _ | .custom _ => none

/-- Where there is a key, it is one that signs. -/
def HasUsableKey : Auth → Prop
  | .jwtProfile key _ => key.Usable
  | _ => True

theorem source_of_granting? (granting : a.granting? i = some (scopes, grant)) :
    a.source i = exchanging i scopes grant := by
  cases a with
  | personalAccessToken | custom => cases granting
  | jwtProfile | password =>
    simp only [granting?, Option.some.injEq, Prod.mk.injEq] at granting
    rw [source, granting.1, granting.2]

theorem keyGrant_eq_ok {key : ServiceKey} {audience : String} {g : Grant} (granted : keyGrant key audience = .ok g) :
    ∃ bytes, key.signingKey = .ok bytes ∧ g = .assertion key bytes audience := by
  unfold keyGrant at granted
  split at granted
  · cases granted
  · cases granted
    exact ⟨_, ‹_›, rfl⟩

theorem key_of_request {key : ServiceKey} {g : Grant} {scope : String} {date : Nat} {form : TokenRequest}
    (granted : keyGrant key i.origin = .ok g) (made : g.request scope date = .ok form) :
    ∃ bytes k, key.signingKey = .ok bytes ∧ Rsa.PrivateKey.parse bytes = .ok k := by
  obtain ⟨bytes, encoded, rfl⟩ := keyGrant_eq_ok granted
  obtain ⟨text, signed⟩ := Grant.sign_of_request made
  obtain ⟨k, read⟩ := ServiceKey.exists_key_of_sign signed
  exact ⟨bytes, k, encoded, read⟩

theorem unsigned_of_granting? {g : Grant} {scope : String} {date : Nat} {e : TokenError}
    (granting : a.granting? i = some (scopes, .ok g)) (refused : g.request scope date = .error e) :
    ¬ a.HasUsableKey ∧ ∃ fault, e = .signing fault := by
  cases a with
  | personalAccessToken | custom => cases granting
  | password => cases granting; cases refused
  | jwtProfile key _ =>
    obtain ⟨-, granted⟩ := Prod.mk.inj (Option.some.inj granting)
    obtain ⟨bytes, encoded, rfl⟩ := keyGrant_eq_ok granted
    obtain ⟨fault, unsigned, rfl⟩ := Grant.sign_of_refused refused
    refine ⟨fun usable => ?_, fault, rfl⟩
    obtain ⟨text, signed⟩ := ServiceKey.exists_sign usable encoded i.origin date
    rw [signed] at unsigned
    cases unsigned

/-! ### What is sent -/

/-- The requests that can have been sent, with what is known of each. -/
inductive Sends (i : Issuer) (scopes : List String) (grant : Except TokenError Grant) :
    List (HttpRequest × HttpOutcome) → Except TokenError TokenSource → Prop where
  | nothing {e : TokenError} : Sends i scopes grant [] (.error e)
  | asked {get : HttpRequest} {answer : HttpOutcome} {e : TokenError} (asks : Discovery.request i = .ok get) :
      Sends i scopes grant [(get, answer)] (.error e)
  | refused {get post : HttpRequest} {reply : HttpReply} {answer : HttpOutcome} {url : Url} {g : Grant} {date : Nat}
      {form : TokenRequest} {e : TokenError} (asks : Discovery.request i = .ok get)
      (named : Discovery.readReply get reply = .ok url) (granted : grant = .ok g)
      (made : g.request (Exchange.joinScopes scopes) date = .ok form)
      (posts : (exchange i scopes g url).endpoint.post form = .ok post)
      (fails : ∀ reply now t, answer = .replied reply → TokenEndpoint.readReply now reply ≠ .token t) :
      Sends i scopes grant [(get, .replied reply), (post, answer)] (.error e)
  | primed {get post : HttpRequest} {reply again : HttpReply} {url : Url} {g : Grant} {date : Nat} {form : TokenRequest}
      {t : AccessToken} {read : Instant} (asks : Discovery.request i = .ok get)
      (named : Discovery.readReply get reply = .ok url) (granted : grant = .ok g)
      (made : g.request (Exchange.joinScopes scopes) date = .ok form)
      (posts : (exchange i scopes g url).endpoint.post form = .ok post)
      (gives : TokenEndpoint.readReply read again = .token t) (now : Instant) :
      Sends i scopes grant [(get, .replied reply), (post, .replied again)]
        (.ok (.refreshing (exchange i scopes g url) (.primed now defaultExpiryMargin t)))

theorem Inits.sends (inits : Inits i scopes grant sent r) : Sends i scopes grant sent r := by
  cases inits with
  | undiscovered refused =>
    generalize Except.error _ = found at refused
    cases refused with
    | unaddressed => exact .nothing
    | unanswered asks | replied asks => exact .asked asks
  | keyless discovered =>
    obtain ⟨get, reply, rfl, asks, -⟩ := discovered.of_ok
    exact .asked asks
  | @failed _ later url g e discovered granted exchanged =>
    obtain ⟨get, reply, rfl, asks, named⟩ := discovered.of_ok
    generalize ended : TokenOutcome.failed e = o at exchanged
    cases exchanged with
    | unsigned | unsendable => exact .asked asks
    | unanswered made posts => exact .refused asks named granted made posts nofun
    | replied made posts again read =>
      refine .refused asks named granted made posts ?_
      rintro reply now t ⟨⟩ gives
      obtain ⟨t', gives⟩ := TokenEndpoint.readReply_token read gives
      rw [gives] at ended
      cases ended
  | @primed _ later url g t discovered granted exchanged now =>
    obtain ⟨get, reply, rfl, asks, named⟩ := discovered.of_ok
    generalize ended : TokenOutcome.token t = o at exchanged
    cases exchanged with
    | unsigned | unsendable | unanswered => cases ended
    | replied made posts again read => exact .primed asks named granted made posts ended.symm now

namespace Sends

theorem order (sends : Sends i scopes grant sent r) : sent.map (·.1.method) <+: [.get, .post] := by
  cases sends with
  | nothing => exact List.nil_prefix
  | asked asks => simp [(Discovery.request_eq_ok asks).1]
  | refused asks _ _ _ posts | primed asks _ _ _ posts =>
    simp [(Discovery.request_eq_ok asks).1, (TokenEndpoint.post_eq_ok posts).1]

theorem get (sends : Sends i scopes grant sent r) :
    ∀ q ∈ sent, q.1.method = .get → Discovery.request i = .ok q.1 ∧ q.1.body = "" := by
  cases sends with
  | nothing => simp
  | asked asks => simp [asks, (Discovery.request_eq_ok asks).2]
  | refused asks _ _ _ posts | primed asks _ _ _ posts =>
    simp [asks, (Discovery.request_eq_ok asks).2, (TokenEndpoint.post_eq_ok posts).1]

theorem post (sends : Sends i scopes grant sent r) :
    ∀ q ∈ sent, q.1.method = .post → ∃ get reply url g date form, ((get, .replied reply) ∈ sent ∧ get.method = .get) ∧
      Discovery.readReply get reply = .ok url ∧ grant = .ok g ∧ g.request (Exchange.joinScopes scopes) date = .ok form ∧
        TokenEndpoint.post ⟨url, i.tls && i.skipVerify⟩ form = .ok q.1 := by
  intro q asked posted
  cases sends with
  | nothing => cases asked
  | asked asks =>
    obtain rfl := List.mem_singleton.1 asked
    cases posted.symm.trans (Discovery.request_eq_ok asks).1
  | refused asks named granted made posts | primed asks named granted made posts =>
    have get := (Discovery.request_eq_ok asks).1
    rcases List.mem_pair.1 asked with rfl | rfl
    · cases posted.symm.trans get
    · exact ⟨_, _, _, _, _, _, ⟨List.mem_cons_self, get⟩, named, granted, made, posts⟩

theorem succeeds (sends : Sends i scopes grant sent r) : (∃ src, r = .ok src) ↔ ∃ get answer post reply now t,
    sent = [(get, answer), (post, .replied reply)] ∧ TokenEndpoint.readReply now reply = .token t := by
  cases sends with
  | nothing | asked => simp
  | refused _ _ _ _ _ fails =>
    constructor
    · rintro ⟨src, ⟨⟩⟩
    · rintro ⟨_, _, _, reply, now, t, ⟨⟩, gives⟩
      exact absurd gives (fails reply now t rfl)
  | primed _ _ _ _ _ gives => exact ⟨fun _ => ⟨_, _, _, _, _, _, rfl, gives⟩, fun _ => ⟨_, rfl⟩⟩

end Sends

/-! ### What a setting keeps to -/

/-- What a source does that was made with the exchange `x`, which sent `post` and gave `t`. -/
structure Follows (a : Auth) (x : Exchange) (post : HttpRequest) (t : AccessToken) (now : Instant) : Prop where
  fresh : ∀ n es os src, (TokenSource.tokens n (.refreshing x (.primed now defaultExpiryMargin t))).Ran es (os, src) →
    (∀ m, .clock m ∈ es → t.expiresWithin m.clock defaultExpiryMargin = false) →
      sends es = [] ∧ os = List.replicate n (.token t)
  /-- Calls side by side, too, are given the token and start no exchange. -/
  shared : ∀ s, Relation.ReflTransGen Refreshing.State.Step (.primed now defaultExpiryMargin t) s →
    t.expiresWithin s.now s.margin = false →
      (∀ c, .started c ∉ s.history) ∧ ∀ c o, .returned c o ∈ s.history → o = .token t
  calls : ∀ n es os src, (TokenSource.tokens n (.refreshing x (.primed now defaultExpiryMargin t))).Ran es (os, src) →
    ∃ calls : List (List (HttpRequest × HttpOutcome) × TokenOutcome), calls.length = n ∧ os = calls.map Prod.snd ∧
      sends es = (calls.map Prod.fst).flatten ∧
      ∀ c ∈ calls, (c.1 = [] ∧ ∃ t, c.2 = .token t) ∨ ∃ es, x.run.Ran es c.2 ∧ c.1 = sends es
  /-- Only a key whose parts do not belong together may at times not sign. -/
  exchanges : ∀ es o, x.run.Ran es o →
    (∃ again answer, sends es = [(again, answer)] ∧ again.method = .post ∧ again.url = post.url) ∨
      (sends es = [] ∧ ¬ a.HasUsableKey ∧ ∃ fault, o = .failed (.signing fault))

theorem Follows.of_posted {g : Grant} {url : Url} {post : HttpRequest} {form : TokenRequest} {t : AccessToken}
    (granting : a.granting? i = some (scopes, .ok g)) (posted : (exchange i scopes g url).endpoint.post form = .ok post)
    (now : Instant) : Follows a (exchange i scopes g url) post t now where
  fresh := fun _ _ _ _ ran outlives => TokenSource.tokens_of_fresh ran rfl outlives
  shared := fun _ steps outlives => by
    have serves := Refreshing.State.Serves.steps steps outlives
    exact ⟨serves.idle, serves.given⟩
  calls := fun _ _ _ _ ran => TokenSource.calls_of_tokens ran
  exchanges := fun _ _ ran => by
    obtain again | ⟨none_sent, date, e, refused, rfl⟩ := (Exchange.ran_run ran).again posted
    · exact .inl again
    · obtain ⟨unusable, fault, rfl⟩ := unsigned_of_granting? granting refused
      exact .inr ⟨none_sent, unusable, fault, rfl⟩

/-- What is sent to make a token source by exchange, and what comes of it. -/
structure Protocol (a : Auth) (i : Issuer) (scopes : List String) (grant : Except TokenError Grant)
    (sent : List (HttpRequest × HttpOutcome)) (r : Except TokenError TokenSource) : Prop where
  steps : Inits i scopes grant sent r
  order : sent.map (·.1.method) <+: [.get, .post]
  get : ∀ q ∈ sent, q.1.method = .get → Discovery.request i = .ok q.1 ∧ q.1.body = ""
  post : ∀ q ∈ sent, q.1.method = .post → ∃ get reply url g date form, (get, .replied reply) ∈ sent ∧
    Discovery.readReply get reply = .ok url ∧ grant = .ok g ∧ g.request (Exchange.joinScopes scopes) date = .ok form ∧
      TokenEndpoint.post ⟨url, i.tls && i.skipVerify⟩ form = .ok q.1
  /-- Only a document that names a URL, in a reply without error, lets anything be posted, and then it goes there. -/
  endpoint : ∀ q ∈ sent, q.1.method = .post → ∃ get reply url, (get, .replied reply) ∈ sent ∧ get.method = .get ∧
    Discovery.Gives reply url ∧ q.1.PostsTo url
  key : ∀ key, a = .jwtProfile key scopes → (∃ q ∈ sent, q.1.method = .post) →
    ∃ bytes k, key.signingKey = .ok bytes ∧ Rsa.PrivateKey.parse bytes = .ok k
  succeeds : (∃ src, r = .ok src) ↔ ∃ get answer post reply now t,
    sent = [(get, answer), (post, .replied reply)] ∧ TokenEndpoint.readReply now reply = .token t
  afterwards : ∀ src, r = .ok src → ∃ x post reply read t now, (post, .replied reply) ∈ sent ∧ post.method = .post ∧
    TokenEndpoint.readReply read reply = .token t ∧ src = .refreshing x (.primed now defaultExpiryMargin t) ∧
      Follows a x post t now

theorem Protocol.of_inits (granting : a.granting? i = some (scopes, grant)) (inits : Inits i scopes grant sent r) :
    Protocol a i scopes grant sent r where
  steps := inits
  order := inits.sends.order
  get := inits.sends.get
  post := by
    intro q asked posted
    obtain ⟨get, reply, url, g, date, form, ⟨received, -⟩, there⟩ := inits.sends.post q asked posted
    exact ⟨get, reply, url, g, date, form, received, there⟩
  endpoint := by
    intro q asked posted
    obtain ⟨get, reply, url, _, _, _, ⟨received, asks⟩, named, -, -, posts⟩ := inits.sends.post q asked posted
    exact ⟨get, reply, url, received, asks, Discovery.readReply_eq_ok_iff.1 named, TokenEndpoint.post_postsTo posts⟩
  key := by
    rintro key rfl ⟨q, asked, posted⟩
    obtain ⟨_, _, _, g, _, _, -, -, rfl, made, -⟩ := inits.sends.post q asked posted
    simp only [granting?, Option.some.injEq, Prod.mk.injEq, true_and] at granting
    exact key_of_request granting made
  succeeds := inits.sends.succeeds
  afterwards := by
    rintro src rfl
    generalize made : Except.ok src = r at inits
    cases inits.sends with
    | nothing | asked | refused => cases made
    | primed asks named granted made' posts gives now =>
      obtain rfl := Except.ok.inj made
      subst granted
      exact ⟨_, _, _, _, _, now, List.mem_cons_of_mem _ List.mem_cons_self, (TokenEndpoint.post_eq_ok posts).1, gives,
        rfl, .of_posted granting posts now⟩

/-- Whatever the world answers: a personal access token is taken without a request, if it is not empty, and given to
each call; where tokens are exchanged for, the protocol is kept to. -/
theorem init_follows_protocol (a : Auth) (i : Issuer) (w : World) (past : List Event) :
    ∃ es r, (a.init i).run w past = (es.reverse ++ past, r) ∧
      (∀ token, a = .personalAccessToken token → sends es = [] ∧
        r = (if token = "" then .error (.invalidKey .emptyAccessToken) else .ok (.fixed (.bearer token))) ∧
        ∀ n es os src, (TokenSource.tokens n (.fixed (.bearer token))).Ran es (os, src) →
          sends es = [] ∧ os = List.replicate n (.token (.bearer token))) ∧
      ∀ scopes grant, a.granting? i = some (scopes, grant) → Protocol a i scopes grant (sends es) r := by
  obtain ⟨es, events, ran⟩ := Procedure.ran_run w past (a.init i)
  refine ⟨es, ((a.init i).run w past).2, Prod.ext events rfl, ?_⟩
  clear events
  generalize ((a.init i).run w past).2 = r at ran ⊢
  cases ran with
  | log _ ran =>
    rw [Event.sends_logged]
    constructor
    · rintro token rfl
      obtain ⟨rfl, rfl⟩ := Procedure.ran_done ran
      exact ⟨rfl, rfl, fun _ _ _ _ calls => TokenSource.tokens_of_fixed calls⟩
    · intro scopes grant granting
      rw [source_of_granting? granting] at ran
      exact .of_inits granting (ran_exchanging ran)

theorem init_follows_protocol_password :
    let a : Auth := .password ⟨"user", "pass"⟩ ["openid"]
    let body (r : HttpRequest) : String := match r.method with
      | .get => "\x7b\"token_endpoint\":\"https://a/token\"\x7d"
      | .post => "\x7b\"access_token\":\"x\",\"expires_in\":3600\x7d"
    let w : World := { World.silent with reply := fun _ r => .replied ⟨⟨200⟩, none, some (Utf8.encode (body r))⟩ }
    ∃ es src x post t now, (a.init (.ofDomain "a")).run w [] = (es.reverse, .ok src) ∧
      (sends es).map (·.1.method) = [.get, .post] ∧ src = .refreshing x (.primed now defaultExpiryMargin t) ∧
        Follows a x post t now ∧ post ∈ (sends es).map (·.1) ∧
          ∃ url, Url.parse "https://a/token" = .ok url ∧ post.PostsTo url := by
  intro a body w
  obtain ⟨es, r, ran, -, protocol⟩ := init_follows_protocol a (.ofDomain "a") w []
  have kept := protocol ["openid"] _ rfl
  have made : ((a.init (.ofDomain "a")).run w []).2.toOption.isSome = true := by decide +kernel
  have answered : ∀ q ∈ sends ((a.init (.ofDomain "a")).run w []).1.reverse, q.1.method = .get →
      q.2 = .replied ⟨⟨200⟩, none, some Discovery.bareDocument⟩ := by
    decide +kernel
  rw [List.append_nil] at ran
  rw [ran] at made answered
  rw [List.reverse_reverse] at answered
  cases r with
  | error => cases made
  | ok src =>
    obtain ⟨x, post, _, _, t, now, posted, method, -, given, follows⟩ := kept.afterwards src rfl
    obtain ⟨_, _, _, _, _, _, sent, -⟩ := kept.succeeds.1 ⟨src, rfl⟩
    have order := kept.order
    rw [sent] at order
    obtain ⟨get, reply, url, received, asks, gives, goes⟩ := kept.endpoint (post, _) posted method
    obtain rfl := HttpOutcome.replied.inj (answered (get, _) received asks)
    obtain ⟨_, text, whole, names, parsed⟩ := gives.named
    obtain rfl := Option.some.inj whole
    obtain rfl := names.unique Discovery.bareDocument_names
    refine ⟨es, src, x, post, t, now, ran, ?_, given, follows, List.mem_map.2 ⟨_, posted, rfl⟩, url, parsed, goes⟩
    rw [sent]
    exact order.eq_of_length rfl

end Auth

end IdentityClient
