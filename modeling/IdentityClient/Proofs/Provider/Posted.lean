import IdentityClient.Proofs.Net.BasicCredentials
import IdentityClient.Proofs.Net.Form
import IdentityClient.Proofs.Provider.Exchange

/-!
# What an exchange posts

One request is posted, or none (`Exchange.sends_of_ran`). Its body is a form that reads back as the fields that were
meant, and holds nothing of a client's name or secret (`Exchange.body_reads_back`); these stand in the header alone, which
tells two clients apart unless their names differ in the number of their colons (`Exchange.header_names_client`).
-/

namespace IdentityClient

open Event (sends)

namespace HttpRequest

/-- The credentials that were added last, behind those that the URL held. -/
def basic? (r : HttpRequest) : Option HeaderValue := (r.headers.getAll authorization).getLast?

theorem headers_of_ofUrl {method : HttpMethod} {u : Url} {any : Bool} {r : HttpRequest}
    (made : ofUrl method u any = .ok r) : r.headers.getAll "content-type" = [] := by
  unfold ofUrl at made
  split at made
  rename_i url headers parted
  have none_yet : headers.getAll "content-type" = [] := by
    split at parted
    all_goals cases parted
    · simp [Headers.getAll, authorization]
    · rfl
  split at made
  · cases made
  · split at made
    · cases made
    · split at made
      · cases made
      · cases made
        exact none_yet

end HttpRequest

namespace TokenEndpoint

variable {e : TokenEndpoint} {t : TokenRequest} {r : HttpRequest}

theorem body_of_post (posts : e.post t = .ok r) : r.body = String.ofList (Form.encode t.form) := by
  unfold post at posts
  split at posts
  · cases posts
  · cases posts
    cases t.basic <;> rfl

theorem contentType_of_post (posts : e.post t = .ok r) :
    r.headers.getAll "content-type" = [.ofString Form.contentType] := by
  unfold post at posts
  split at posts
  · cases posts
  · rename_i made
    have none_yet := HttpRequest.headers_of_ofUrl made
    cases posts
    rw [Headers.getAll] at none_yet
    cases t.basic <;>
      simp [HttpRequest.withForm, HttpRequest.withBasic, HttpRequest.authorization, Headers.append, Headers.getAll, none_yet]

theorem basic?_of_post {c : BasicCredentials} (posts : e.post t = .ok r) (basic : t.basic = some c) :
    r.basic? = some c.header := by
  unfold post at posts
  rw [basic] at posts
  split at posts
  · cases posts
  · cases posts
    simp [HttpRequest.basic?, HttpRequest.withBasic, Headers.append, Headers.getAll]

end TokenEndpoint

namespace Exchange

variable {x y : Exchange} {es es' : List Event} {o o' : TokenOutcome} {q q' : HttpRequest × HttpOutcome}
  {scopes : List String}

/-- Nothing is posted, and the exchange fails, or it is one request that was made for the moment. -/
theorem sends_of_ran (ran : x.run.Ran es o) : (sends es = [] ∧ ∃ e, o = .failed e) ∨
    ∃ m t q, .clock m ∈ es ∧ x.grant.request x.scope m.date = .ok t ∧ x.endpoint.post t = .ok q.1 ∧ sends es = [q] := by
  unfold run at ran
  cases ran with
  | clock m ran =>
    dsimp only at ran
    split at ran
    · obtain ⟨rfl, rfl⟩ := Procedure.ran_done ran
      exact .inl ⟨rfl, _, rfl⟩
    · rename_i t made
      unfold TokenEndpoint.ask at ran
      split at ran
      · obtain ⟨rfl, rfl⟩ := Procedure.ran_done ran
        exact .inl ⟨rfl, _, rfl⟩
      · rename_i r posts
        cases ran with
        | send _ answer ran =>
          refine .inr ⟨m, t, (r, answer), List.mem_cons_self, made, posts, ?_⟩
          cases answer with
          | unanswered =>
            obtain ⟨rfl, rfl⟩ := Procedure.ran_done ran
            rfl
          | replied reply =>
            cases ran with
            | clock now ran =>
              obtain ⟨rfl, rfl⟩ := Procedure.ran_done ran
              rfl

theorem sent_of_mem (ran : x.run.Ran es o) (asked : q ∈ sends es) : ∃ m t, .clock m ∈ es ∧
    x.grant.request x.scope m.date = .ok t ∧ x.endpoint.post t = .ok q.1 ∧ sends es = [q] := by
  obtain ⟨quiet, -⟩ | ⟨m, t, q', moment, made, posts, sent⟩ := sends_of_ran ran
  · rw [quiet] at asked
    cases asked
  · rw [sent] at asked
    obtain rfl := List.mem_singleton.1 asked
    exact ⟨m, t, moment, made, posts, sent⟩

/-! ### Bodies -/

theorem request_client {client : BasicCredentials} {scope : String} {date : Nat} {t : TokenRequest}
    (made : (Grant.clientCredentials client).request scope date = .ok t) :
    t = ⟨("grant_type", Grant.clientCredentialsType) :: Grant.scopeField scope, some client⟩ :=
  (Except.ok.inj made).symm

theorem request_assertion {key : ServiceKey} {keyBytes : Bytes} {audience scope : String} {date : Nat} {t : TokenRequest}
    (made : (Grant.assertion key keyBytes audience).request scope date = .ok t) :
    ∃ text, key.sign keyBytes audience date = .ok text ∧
      t = ⟨("grant_type", Grant.assertionType) :: ("assertion", text) :: Grant.scopeField scope, none⟩ := by
  unfold Grant.request at made
  dsimp only at made
  split at made
  · cases made
  · exact ⟨_, ‹_›, (Except.ok.inj made).symm⟩

theorem mem_scopeField {scope v : String} : ("scope", v) ∈ Grant.scopeField scope ↔ scope ≠ "" ∧ v = scope := by
  rw [Grant.scopeField]
  split <;> simp_all

/-- Scopes that are words are found again where they were joined. -/
theorem split_joinScopes (words : ∀ s ∈ scopes, s ≠ "" ∧ ' ' ∉ s.toList) (filled : scopes ≠ []) :
    ((joinScopes scopes).toList.splitOn ' ').map String.ofList = scopes := by
  have apart : ∀ part ∈ scopes.map String.toList, ' ' ∉ part := by
    intro part hp
    obtain ⟨s, hs, rfl⟩ := List.mem_map.1 hp
    exact (words s hs).2
  have blank : " ".toList = [' '] := rfl
  rw [joinScopes, String.toList_intercalate, blank, List.splitOn_intercalate ' ' apart (by simpa using filled),
    List.map_map]
  exact (List.map_congr_left fun s _ => String.ofList_toList).trans (List.map_id _)

theorem joinScopes_ne_empty (words : ∀ s ∈ scopes, s ≠ "" ∧ ' ' ∉ s.toList) : joinScopes scopes ≠ "" ↔ scopes ≠ [] := by
  constructor
  · rintro joined rfl
    exact joined rfl
  · intro filled none
    have split := split_joinScopes words filled
    have alone : scopes = [""] := by
      rw [← split, none]
      rfl
    exact (words "" (by simp [alone])).1 rfl

/-- What is posted reads back as the fields in order: the type of the grant, the assertion of the moment if there is one,
and the scopes, joined, unless they come to nothing. Of a client there is nothing in the body. Scopes that are words are
posted if there are any, and are then found again between the blanks. -/
theorem body_reads_back {grant : Grant} {endpoint : TokenEndpoint}
    (ran : (Exchange.mk grant (joinScopes scopes) endpoint).run.Ran es o) (asked : q ∈ sends es) :
    let scopeField := if joinScopes scopes = "" then [] else [("scope", joinScopes scopes)]
    sends es = [q] ∧ q.1.headers.getAll "content-type" = [.ofString "application/x-www-form-urlencoded"] ∧
    (∀ key keyBytes audience, grant = .assertion key keyBytes audience →
      ∃ m text, .clock m ∈ es ∧ key.sign keyBytes audience m.date = .ok text ∧ Form.decode q.1.body.toList =
        ("grant_type", "urn:ietf:params:oauth:grant-type:jwt-bearer") :: ("assertion", text) :: scopeField) ∧
    (∀ client, grant = .clientCredentials client →
      Form.decode q.1.body.toList = ("grant_type", "client_credentials") :: scopeField ∧
      ∀ client' endpoint' es' o',
        (Exchange.mk (.clientCredentials client') (joinScopes scopes) endpoint').run.Ran es' o' →
          ∀ q' ∈ sends es', q'.1.body = q.1.body) ∧
    ((∀ s ∈ scopes, s ≠ "" ∧ ' ' ∉ s.toList) →
      ((∃ v, ("scope", v) ∈ Form.decode q.1.body.toList) ↔ scopes ≠ []) ∧
      ∀ v, ("scope", v) ∈ Form.decode q.1.body.toList → (v.toList.splitOn ' ').map String.ofList = scopes) := by
  obtain ⟨m, t, moment, made, posts, sent⟩ := sent_of_mem ran asked
  have body := TokenEndpoint.body_of_post posts
  have fields : Form.decode q.1.body.toList = t.form := by rw [body, String.toList_ofList, Form.decode_encode]
  have scope_in : ∀ v, ("scope", v) ∈ t.form ↔ joinScopes scopes ≠ "" ∧ v = joinScopes scopes := by
    intro v
    cases grant with
    | assertion key keyBytes audience =>
      obtain ⟨text, -, rfl⟩ := request_assertion made
      simp [mem_scopeField]
    | clientCredentials client =>
      obtain rfl := request_client made
      simp [mem_scopeField]
  refine ⟨sent, TokenEndpoint.contentType_of_post posts, ?_, ?_, ?_⟩
  · rintro key keyBytes audience rfl
    obtain ⟨text, signed, rfl⟩ := request_assertion made
    exact ⟨m, text, moment, signed, fields⟩
  · rintro client rfl
    obtain rfl := request_client made
    refine ⟨fields, fun client' endpoint' es' o' ran' q' asked' => ?_⟩
    obtain ⟨m', t', -, made', posts', -⟩ := sent_of_mem ran' asked'
    obtain rfl := request_client made'
    exact (TokenEndpoint.body_of_post posts').trans body.symm
  · intro words
    simp only [fields, scope_in]
    refine ⟨by simp [joinScopes_ne_empty words], ?_⟩
    rintro v ⟨joined, rfl⟩
    exact split_joinScopes words ((joinScopes_ne_empty words).1 joined)

/-- An exchange for a client at `https://a/token`. -/
def ofClient (client : BasicCredentials) (scopes : List String) : Exchange :=
  ⟨.clientCredentials client, joinScopes scopes,
    ⟨⟨"https", "", none, some (.domain "a"), none, .segments ["token"], none, none⟩, false⟩⟩

theorem exists_ran (x : Exchange) (sent : sends (x.run.run World.silent []).1.reverse ≠ []) :
    ∃ es o q, x.run.Ran es o ∧ q ∈ sends es := by
  obtain ⟨es, events, ran⟩ := Procedure.ran_run World.silent [] x.run
  rw [events, List.append_nil, List.reverse_reverse] at sent
  obtain ⟨q, asked⟩ := List.exists_mem_of_ne_nil _ sent
  exact ⟨es, _, q, ran, asked⟩

theorem body_reads_back_words : ∃ es o q, (ofClient ⟨"u", "p"⟩ ["openid", "ü+"]).run.Ran es o ∧ q ∈ sends es ∧
    Form.decode q.1.body.toList = [("grant_type", "client_credentials"), ("scope", "openid ü+")] := by
  obtain ⟨es, o, q, ran, asked⟩ := exists_ran (ofClient ⟨"u", "p"⟩ ["openid", "ü+"]) (by decide +kernel)
  exact ⟨es, o, q, ran, asked, ((body_reads_back ran asked).2.2.2.1 _ rfl).1⟩

/-! ### Headers -/

theorem basic?_of_mem {c : BasicCredentials} (grant : x.grant = .clientCredentials c) (ran : x.run.Ran es o)
    (asked : q ∈ sends es) : q.1.basic? = some c.header := by
  obtain ⟨m, t, -, made, posts, -⟩ := sent_of_mem ran asked
  rw [grant] at made
  obtain rfl := request_client made
  exact TokenEndpoint.basic?_of_post posts rfl

/-- Of two exchanges for clients, each sends a value that stands for its client's name and secret joined by a colon. The
same value is sent for the same client, or for one whose name has another number of colons. A name without colons is read
back from the value, with the secret; of any other name the part behind its first colon is taken for the secret's. -/
theorem header_names_client {c d : BasicCredentials} (grant : x.grant = .clientCredentials c)
    (grant' : y.grant = .clientCredentials d) (ran : x.run.Ran es o) (ran' : y.run.Ran es' o') (asked : q ∈ sends es)
    (asked' : q' ∈ sends es') : ∃ v, q.1.basic? = some v ∧
      (q'.1.basic? = some v → (c = d ↔ c.user.toList.count ':' = d.user.toList.count ':')) ∧
      (BasicCredentials.ofHeader? v = some c ↔ ':' ∉ c.user.toList) ∧
      ∀ name rest, c.user.toList = name ++ ':' :: rest → ':' ∉ name →
        BasicCredentials.ofHeader? v = some ⟨String.ofList name, String.ofList (rest ++ ':' :: c.password.toList)⟩ := by
  refine ⟨c.header, basic?_of_mem grant ran asked, ?_, BasicCredentials.ofHeader?_eq_iff,
    fun _ _ => BasicCredentials.ofHeader?_of_colon⟩
  intro same
  rw [basic?_of_mem grant' ran' asked'] at same
  exact BasicCredentials.eq_iff_count (Option.some.inj same).symm

theorem header_names_client_plain : ∃ es o q v, (ofClient ⟨"u", "p:"⟩ []).run.Ran es o ∧ q ∈ sends es ∧
    q.1.basic? = some v ∧ BasicCredentials.ofHeader? v = some ⟨"u", "p:"⟩ := by
  obtain ⟨es, o, q, ran, asked⟩ := exists_ran (ofClient ⟨"u", "p:"⟩ []) (by decide +kernel)
  obtain ⟨v, sent, -, read, -⟩ := header_names_client rfl rfl ran ran asked asked
  exact ⟨es, o, q, v, ran, asked, sent, read.2 (by decide)⟩

/-- Two clients that differ in name and in secret, and post the same. -/
theorem same_header_of_colon : ∃ es o es' o' q q' v, (ofClient ⟨"a:b", "c"⟩ []).run.Ran es o ∧
    (ofClient ⟨"a", "b:c"⟩ []).run.Ran es' o' ∧ q ∈ sends es ∧ q' ∈ sends es' ∧ q.1.basic? = some v ∧
      q'.1.basic? = some v ∧ (⟨"a:b", "c"⟩ : BasicCredentials) ≠ ⟨"a", "b:c"⟩ ∧
        BasicCredentials.ofHeader? v ≠ some ⟨"a:b", "c"⟩ := by
  obtain ⟨es, o, q, ran, asked⟩ := exists_ran (ofClient ⟨"a:b", "c"⟩ []) (by decide +kernel)
  obtain ⟨es', o', q', ran', asked'⟩ := exists_ran (ofClient ⟨"a", "b:c"⟩ []) (by decide +kernel)
  have same : BasicCredentials.header ⟨"a", "b:c"⟩ = BasicCredentials.header ⟨"a:b", "c"⟩ :=
    BasicCredentials.header_eq_iff.2 (by decide)
  refine ⟨es, o, es', o', q, q', _, ran, ran', asked, asked', basic?_of_mem rfl ran asked, ?_, by decide, ?_⟩
  · rw [basic?_of_mem rfl ran' asked', same]
  · rw [Ne, BasicCredentials.ofHeader?_eq_iff]
    decide

end Exchange

end IdentityClient
