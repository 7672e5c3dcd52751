import IdentityClient.Proofs.Crypto.Rsa
import IdentityClient.Proofs.Procedure
import IdentityClient.Provider.Exchange

/-!
# What an exchange does

An exchange posts one request, or none if it cannot be signed or sent, and what it comes to is read from the reply
(`Exchange.Runs`). Whether a request can be sent, and where it goes, depends on the endpoint alone: it goes to the URL of
the endpoint, user info aside (`HttpRequest.PostsTo`). The owner of a key whose parts belong together can always sign
(`ServiceKey.Usable`).
-/

namespace IdentityClient

theorem HttpRequest.ofUrl_eq_ok {method : HttpMethod} {u : Url} {any : Bool} {r : HttpRequest}
    (made : ofUrl method u any = .ok r) : r.method = method ∧ r.body = "" := by
  unfold ofUrl at made
  dsimp only at made
  repeat' split at made
  all_goals cases made
  all_goals exact ⟨rfl, rfl⟩

@[simp] theorem Url.scheme_withoutUserInfo (u : Url) : u.withoutUserInfo.scheme = u.scheme := rfl

/-- The request is posted to the URL, which is one of the web. -/
structure HttpRequest.PostsTo (q : HttpRequest) (url : Url) : Prop where
  method : q.method = .post
  target : q.url.withoutUserInfo = url.withoutUserInfo
  web : url.scheme = "http" ∨ url.scheme = "https"

namespace HttpRequest.PostsTo

variable {q q' : HttpRequest} {url : Url}

theorem scheme (posts : q.PostsTo url) : q.url.scheme = url.scheme := by
  rw [← q.url.scheme_withoutUserInfo, posts.target, url.scheme_withoutUserInfo]

theorem https (posts : q.PostsTo url) (named : url.scheme ≠ "http") : q.url.scheme = "https" :=
  posts.scheme.trans (posts.web.resolve_left named)

theorem again (posts : q.PostsTo url) (method : q'.method = .post) (same : q'.url = q.url) : q'.PostsTo url :=
  ⟨method, by rw [same, posts.target], posts.web⟩

end HttpRequest.PostsTo

theorem HttpRequest.url_of_ofUrl {method : HttpMethod} {u : Url} {any : Bool} {r : HttpRequest}
    (made : ofUrl method u any = .ok r) :
    r.url.withoutUserInfo = u.withoutUserInfo ∧ (u.scheme = "http" ∨ u.scheme = "https") := by
  unfold ofUrl at made
  split at made
  rename_i url headers parted
  have kept : url.withoutUserInfo = u.withoutUserInfo ∧ url.scheme = u.scheme := by
    split at parted <;> cases parted <;> exact ⟨rfl, rfl⟩
  split at made
  · cases made
  · split at made
    · cases made
    · rename_i web
      split at made
      · cases made
      · cases made
        exact ⟨kept.1, by rw [← kept.2]; simpa [or_iff_not_imp_left] using web⟩

namespace TokenEndpoint

variable {e : TokenEndpoint} {t : TokenRequest} {r : HttpRequest} {now : Instant} {reply : HttpReply}

theorem post_eq_ok (posts : e.post t = .ok r) : r.method = .post ∧
    ∀ t' : TokenRequest, ∃ r', e.post t' = .ok r' ∧ r'.method = .post ∧ r'.url = r.url := by
  unfold post at posts ⊢
  cases made : HttpRequest.ofUrl .post e.url e.acceptAnyCertificate with
  | error fault => rw [made] at posts; cases posts
  | ok base =>
    have method := (HttpRequest.ofUrl_eq_ok made).1
    rw [made] at posts
    cases posts
    refine ⟨?_, fun t' => ⟨_, rfl, ?_, ?_⟩⟩
    · cases t.basic <;> exact method
    · cases t'.basic <;> exact method
    · cases t'.basic <;> cases t.basic <;> rfl

theorem post_postsTo (posts : e.post t = .ok r) : r.PostsTo e.url := by
  have method := (post_eq_ok posts).1
  unfold post at posts
  split at posts
  · cases posts
  · rename_i made
    obtain ⟨target, web⟩ := HttpRequest.url_of_ofUrl made
    cases posts
    refine ⟨method, ?_, web⟩
    cases t.basic <;> exact target

theorem tokenOfResponse_token {response : Json.Record} (now' : Instant) {token : AccessToken}
    (read : tokenOfResponse now response = .token token) : ∃ token', tokenOfResponse now' response = .token token' := by
  unfold tokenOfResponse at read ⊢
  dsimp only at read ⊢
  split at read
  · cases read
  · rename_i bearer
    rw [if_neg bearer]
    split at read
    · cases read
    · rename_i filled
      rw [if_neg filled]
      split <;> exact ⟨_, rfl⟩

/-- Whether a reply gives a token does not depend on when it is read. -/
theorem readReply_token (now' : Instant) {token : AccessToken} (read : readReply now reply = .token token) :
    ∃ token', readReply now' reply = .token token' := by
  unfold readReply at read ⊢
  split at read
  · rename_i success
    rw [if_pos success]
    split at read
    · cases read
    · exact tokenOfResponse_token now' read
  · cases read

end TokenEndpoint

/-- The text holds an RSA key that is read, and whose parts belong together. -/
def ServiceKey.Usable (k : ServiceKey) : Prop :=
  ∃ bytes key, k.signingKey = .ok bytes ∧ Rsa.PrivateKey.parse bytes = .ok key ∧ key.Proper

theorem ServiceKey.exists_sign {k : ServiceKey} {bytes : Bytes} (usable : k.Usable) (encoded : k.signingKey = .ok bytes)
    (audience : String) (date : Nat) : ∃ text, k.sign bytes audience date = .ok text := by
  obtain ⟨bytes', key, encoded', read, proper⟩ := usable
  obtain rfl := Except.ok.inj (encoded.symm.trans encoded')
  obtain ⟨signature, signed⟩ :=
    proper.exists_sign read (Utf8.encodeChars (Assertion.signedText k.keyId (.ofKey k audience date)))
  unfold sign
  rw [read]
  dsimp only
  rw [signed]
  exact ⟨_, rfl⟩

theorem ServiceKey.exists_key_of_sign {k : ServiceKey} {bytes : Bytes} {audience text : String} {date : Nat}
    (signed : k.sign bytes audience date = .ok text) : ∃ key, Rsa.PrivateKey.parse bytes = .ok key := by
  unfold sign at signed
  split at signed
  · cases signed
  · exact ⟨_, ‹_›⟩

namespace Grant

variable {key : ServiceKey} {keyBytes : Bytes} {audience scope : String} {date : Nat}

theorem sign_of_request {form : TokenRequest} (made : (assertion key keyBytes audience).request scope date = .ok form) :
    ∃ text, key.sign keyBytes audience date = .ok text := by
  unfold request at made
  dsimp only at made
  split at made
  · cases made
  · exact ⟨_, ‹_›⟩

theorem sign_of_refused {e : TokenError} (refused : (assertion key keyBytes audience).request scope date = .error e) :
    ∃ fault, key.sign keyBytes audience date = .error fault ∧ e = .signing fault := by
  unfold request at refused
  dsimp only at refused
  split at refused
  · cases refused
    exact ⟨_, ‹_›, rfl⟩
  · cases refused

end Grant

namespace Exchange

variable {x : Exchange} {es : List Event} {o : TokenOutcome} {sent : List (HttpRequest × HttpOutcome)}

/-- The requests that an exchange sends, and what it comes to. -/
inductive Runs (x : Exchange) : List (HttpRequest × HttpOutcome) → TokenOutcome → Prop where
  | unsigned {date : Nat} {e : TokenError} (refused : x.grant.request x.scope date = .error e) : Runs x [] (.failed e)
  | unsendable {date : Nat} {t : TokenRequest} {fault : SendFault} (made : x.grant.request x.scope date = .ok t)
      (refused : x.endpoint.post t = .error fault) : Runs x [] (.failed (.http (.requestFailed fault)))
  | unanswered {date : Nat} {t : TokenRequest} {r : HttpRequest} (made : x.grant.request x.scope date = .ok t)
      (posts : x.endpoint.post t = .ok r) :
      Runs x [(r, .unanswered)] (.failed (.http (.requestFailed (.unanswered r.url.render))))
  | replied {date : Nat} {t : TokenRequest} {r : HttpRequest} (made : x.grant.request x.scope date = .ok t)
      (posts : x.endpoint.post t = .ok r) (reply : HttpReply) (now : Instant) :
      Runs x [(r, .replied reply)] (TokenEndpoint.readReply now reply)

theorem ran_run (ran : x.run.Ran es o) : Runs x (Event.sends es) o := by
  unfold run at ran
  cases ran with
  | clock m ran =>
    dsimp only at ran
    split at ran
    · rename_i refused
      obtain ⟨rfl, rfl⟩ := Procedure.ran_done ran
      exact .unsigned refused
    · rename_i made
      unfold TokenEndpoint.ask at ran
      split at ran
      · rename_i refused
        obtain ⟨rfl, rfl⟩ := Procedure.ran_done ran
        exact .unsendable made refused
      · rename_i posts
        cases ran with
        | send _ answer ran =>
          cases answer with
          | unanswered =>
            obtain ⟨rfl, rfl⟩ := Procedure.ran_done ran
            exact .unanswered made posts
          | replied reply =>
            cases ran with
            | clock now ran =>
              obtain ⟨rfl, rfl⟩ := Procedure.ran_done ran
              exact .replied made posts reply now.clock

/-- Once a request has been sent for an exchange, each later one sends a request to the same URL, if it can be made. -/
theorem Runs.again {r : HttpRequest} {t : TokenRequest} (runs : Runs x sent o) (posted : x.endpoint.post t = .ok r) :
    (∃ r' answer, sent = [(r', answer)] ∧ r'.method = .post ∧ r'.url = r.url) ∨
      (sent = [] ∧ ∃ date e, x.grant.request x.scope date = .error e ∧ o = .failed e) := by
  have same {t' : TokenRequest} {r' : HttpRequest} (posts : x.endpoint.post t' = .ok r') :
      r'.method = .post ∧ r'.url = r.url := by
    obtain ⟨r'', posts', method, url⟩ := (TokenEndpoint.post_eq_ok posted).2 t'
    obtain rfl := Except.ok.inj (posts.symm.trans posts')
    exact ⟨method, url⟩
  cases runs with
  | unsigned refused => exact .inr ⟨rfl, _, _, refused, rfl⟩
  | unsendable _ refused =>
    obtain ⟨r', posts, -⟩ := (TokenEndpoint.post_eq_ok posted).2 _
    rw [posts] at refused
    cases refused
  | unanswered _ posts => exact .inl ⟨_, _, rfl, same posts⟩
  | replied _ posts => exact .inl ⟨_, _, rfl, same posts⟩

end Exchange

end IdentityClient
