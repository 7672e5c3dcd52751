import IdentityClient.Proofs.Auth.Protocol

/-!
# Where the credential goes

A credential is posted to the URL that the discovery document names, user info aside, when the token source is made and
at each later exchange (`Auth.named?`, `HttpRequest.PostsTo`). It is sent over TLS unless that URL is an `http` one;
whether the issuer itself has TLS makes no difference.
-/

namespace IdentityClient

open Event (sends)

namespace Auth

variable {a : Auth} {i : Issuer} {scopes : List String} {grant : Except TokenError Grant}
  {sent : List (HttpRequest × HttpOutcome)} {r : Except TokenError TokenSource} {url url' : Url}

/-- The token endpoint that the document names, which is what is received first. -/
def named? : List (HttpRequest × HttpOutcome) → Option Url
  | (get, .replied reply) :: _ => if get.method = .get then (Discovery.readReply get reply).toOption else none
  | _ => none

/-- Either nothing is posted, and no source is made, or one request goes where the document says. -/
theorem Sends.posted (sends : Sends i scopes grant sent r) :
    (∀ q ∈ sent, q.1.method ≠ .post) ∧ (∃ e, r = .error e) ∨
      ∃ get answer post url, sent = [get, (post, answer)] ∧ get.1.method = .get ∧ named? sent = some url ∧
        post.PostsTo url := by
  cases sends with
  | nothing => exact .inl ⟨by simp, _, rfl⟩
  | asked asks => exact .inl ⟨by simp [(Discovery.request_eq_ok asks).1], _, rfl⟩
  | refused asks named _ _ posts | primed asks named _ _ posts =>
    have get := (Discovery.request_eq_ok asks).1
    refine .inr ⟨_, _, _, _, rfl, get, ?_, TokenEndpoint.post_postsTo posts⟩
    rw [named?, if_pos get, named]
    rfl

theorem Sends.exists_postsTo (sends : Sends i scopes grant sent r) {q : HttpRequest × HttpOutcome} (asked : q ∈ sent)
    (posted : q.1.method = .post) : ∃ url, named? sent = some url ∧ q.1.PostsTo url := by
  obtain ⟨none_posted, -⟩ | ⟨get, answer, post, url, rfl, method, names, posts⟩ := sends.posted
  · exact absurd posted (none_posted q asked)
  · rcases List.mem_pair.1 asked with rfl | rfl
    · cases posted.symm.trans method
    · exact ⟨url, names, posts⟩

/-- Nothing is posted to a URL that is not one of the web. -/
theorem Sends.none_posted (sends : Sends i scopes grant sent r) (names : named? sent = some url)
    (plain : url.scheme ≠ "http") (tls : url.scheme ≠ "https") :
    (∀ q ∈ sent, q.1.method ≠ .post) ∧ ∃ e, r = .error e := by
  obtain quiet | ⟨get, answer, post, url', -, -, names', posts⟩ := sends.posted
  · exact quiet
  · obtain rfl := Option.some.inj (names.symm.trans names')
    rcases posts.web with http | https
    · exact absurd http plain
    · exact absurd https tls

/-- Later calls post to where the first exchange was made. -/
theorem Follows.posts {x : Exchange} {post : HttpRequest} {t : AccessToken} {now : Instant} {n : Nat} {es : List Event}
    {os : List TokenOutcome} {src : TokenSource} (follows : Follows a x post t now) (first : post.PostsTo url)
    (ran : (TokenSource.tokens n (.refreshing x (.primed now defaultExpiryMargin t))).Ran es (os, src)) :
    ∀ q ∈ sends es, q.1.PostsTo url := by
  intro q asked
  obtain ⟨calls, -, -, sent, each⟩ := follows.calls n es os src ran
  rw [sent] at asked
  obtain ⟨_, one, asked⟩ := List.mem_flatten.1 asked
  obtain ⟨c, called, rfl⟩ := List.mem_map.1 one
  obtain ⟨quiet, -⟩ | ⟨es', exchanged, made⟩ := each c called
  · rw [quiet] at asked
    cases asked
  · rw [made] at asked
    obtain ⟨again, answer, sent, method, same⟩ | ⟨quiet, -⟩ := follows.exchanges es' c.2 exchanged
    · rw [sent] at asked
      obtain rfl := List.mem_singleton.1 asked
      exact first.again method same
    · rw [quiet] at asked
      cases asked

theorem inits_of_init {es : List Event} (granting : a.granting? i = some (scopes, grant)) (ran : (a.init i).Ran es r) :
    Inits i scopes grant (sends es) r := by
  cases ran with
  | log _ ran =>
    rw [source_of_granting? granting] at ran
    rw [Event.sends_logged]
    exact ran_exchanging ran

/-- What is sent when the source is made and at later calls: the request for the document comes from the issuer alone,
and all others go where the document says. Unless that is an `http` URL, all of them use TLS; and if it is no `https` URL
either, nothing is posted and no source is made. -/
theorem init_posts_as_named {es : List Event} (granting : a.granting? i = some (scopes, grant))
    (ran : (a.init i).Ran es r) :
    (∀ q ∈ sends es, Discovery.request i = .ok q.1 ∨ ∃ url, named? (sends es) = some url ∧ q.1.PostsTo url) ∧
    (∀ src, r = .ok src → ∃ url, named? (sends es) = some url ∧
      ∀ n later os src', (TokenSource.tokens n src).Ran later (os, src') → ∀ q ∈ sends later, q.1.PostsTo url) ∧
    ∀ url, named? (sends es) = some url → url.scheme ≠ "http" →
      (∀ q ∈ sends es, q.1.method = .post → q.1.url.scheme = "https") ∧
      (∀ src, r = .ok src → ∀ n later os src', (TokenSource.tokens n src).Ran later (os, src') →
        ∀ q ∈ sends later, q.1.url.scheme = "https") ∧
      (url.scheme ≠ "https" → (∀ q ∈ sends es, q.1.method ≠ .post) ∧ ∃ e, r = .error e) := by
  have inits := inits_of_init granting ran
  have protocol := Protocol.of_inits granting inits
  have calls : ∀ src, r = .ok src → ∃ url, named? (sends es) = some url ∧
      ∀ n later os src', (TokenSource.tokens n src).Ran later (os, src') → ∀ q ∈ sends later, q.1.PostsTo url := by
    intro src made
    obtain ⟨x, post, reply, _, t, now, asked, method, _, rfl, follows⟩ := protocol.afterwards src made
    obtain ⟨url, names, posts⟩ := inits.sends.exists_postsTo asked method
    exact ⟨url, names, fun _ _ _ _ => follows.posts posts⟩
  refine ⟨?_, calls, ?_⟩
  · intro q asked
    cases method : q.1.method with
    | get => exact .inl (protocol.get q asked method).1
    | post => exact .inr (inits.sends.exists_postsTo asked method)
  · intro url names plain
    -- Only one document is received, so the endpoint that is posted to is the one in question.
    refine ⟨?_, ?_, inits.sends.none_posted names plain⟩
    · intro q asked posted
      obtain ⟨url', names', posts⟩ := inits.sends.exists_postsTo asked posted
      obtain rfl := Option.some.inj (names.symm.trans names')
      exact posts.https plain
    · intro src made n later os src' ran q asked
      obtain ⟨url', names', posts⟩ := calls src made
      obtain rfl := Option.some.inj (names.symm.trans names')
      exact (posts n later os src' ran q asked).https plain

/-- A world where each document names `endpoint`, and each request for a token gets one. -/
def providerAt (endpoint : String) : World :=
  { World.silent with
    reply := fun _ q => match q.method with
      | .get => .replied ⟨⟨200⟩, none, some (Utf8.encode ("\x7b\"token_endpoint\":\"" ++ endpoint ++ "\"\x7d"))⟩
      | .post => .replied ⟨⟨200⟩, none, some (Utf8.encode "\x7b\"access_token\":\"x\"\x7d")⟩ }

theorem init_posts_as_named_https :
    let a : Auth := .password ⟨"user", "pass"⟩ ["openid"]
    let i := Issuer.ofDomain "a"
    ∃ es src q, (a.init i).run (providerAt "https://a/token") [] = (es.reverse, .ok src) ∧
      (q ∈ sends es ∧ q.1.method = .post ∧ q.1.url.scheme = "https") ∧
      ∀ n later os src', (TokenSource.tokens n src).Ran later (os, src') →
        ∀ q ∈ sends later, q.1.url.scheme = "https" := by
  intro a i
  obtain ⟨es, events, ran⟩ := Procedure.ran_run (providerAt "https://a/token") [] (a.init i)
  have made : ((a.init i).run (providerAt "https://a/token") []).2.toOption.isSome = true := by decide +kernel
  have named : (named? (sends ((a.init i).run (providerAt "https://a/token") []).1.reverse)).map (·.scheme) =
      some "https" := by decide +kernel
  have posted : ((sends ((a.init i).run (providerAt "https://a/token") []).1.reverse).any
      (·.1.method = .post)) = true := by decide +kernel
  rw [events, List.append_nil, List.reverse_reverse] at named posted
  obtain ⟨url, named, scheme⟩ := Option.map_eq_some_iff.1 named
  obtain ⟨-, -, secure⟩ := init_posts_as_named rfl ran
  obtain ⟨https, calls, -⟩ := secure url named (by rw [scheme]; decide)
  obtain ⟨q, asked, method⟩ := List.any_eq_true.1 posted
  have method := of_decide_eq_true method
  generalize ended : (a.init i).run (providerAt "https://a/token") [] = run at *
  obtain ⟨past, r⟩ := run
  cases r with
  | error => cases made
  | ok src =>
    rw [List.append_nil] at events
    exact ⟨es, src, q, Prod.ext events rfl, ⟨asked, method, https q asked method⟩, calls src rfl⟩

/-- The issuer has TLS, and its document names an `http` URL: the client's secret is posted there. -/
theorem init_posts_secret_in_plaintext :
    let a : Auth := .password ⟨"user", "pass"⟩ ["openid"]
    let i := Issuer.ofDomain "a"
    i.tls = true ∧ ∃ es src q, (a.init i).run (providerAt "http://a/token") [] = (es.reverse, .ok src) ∧ q ∈ sends es ∧
      q.1.method = .post ∧ q.1.url.scheme = "http" ∧
        q.1.headers.getAll HttpRequest.authorization = [BasicCredentials.header ⟨"user", "pass"⟩] := by
  intro a i
  have made : ((a.init i).run (providerAt "http://a/token") []).2.toOption.isSome = true := by decide +kernel
  have posted : ((sends ((a.init i).run (providerAt "http://a/token") []).1.reverse).any fun q =>
      q.1.method = .post ∧ q.1.url.scheme = "http" ∧
        q.1.headers.getAll HttpRequest.authorization = [BasicCredentials.header ⟨"user", "pass"⟩]) = true := by
    decide +kernel
  refine ⟨rfl, ?_⟩
  generalize (a.init i).run (providerAt "http://a/token") [] = run at *
  obtain ⟨past, r⟩ := run
  cases r with
  | error => cases made
  | ok src =>
    obtain ⟨q, asked, sent⟩ := List.any_eq_true.1 posted
    exact ⟨past.reverse, src, q, by rw [List.reverse_reverse], asked, of_decide_eq_true sent⟩

end Auth

end IdentityClient
