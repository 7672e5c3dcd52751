import IdentityClient.Auth
import IdentityClient.Proofs.Provider.Exchange

/-!
# Making a token source, and what it does afterwards

Where tokens are exchanged for, making the source asks for the discovery document and then posts for the first token;
it stops where a step fails, with the error of that step (`Auth.Inits`). The source that is made holds this token, and
the exchange that it was made with.
-/

namespace IdentityClient

open Procedure (Ran)
open Event (sends)

variable {i : Issuer} {es : List Event} {sent : List (HttpRequest × HttpOutcome)}

/-! ### Discovery -/

namespace Discovery

/-- The request for the document, and the endpoint that it names or why it names none. -/
inductive Runs (i : Issuer) : List (HttpRequest × HttpOutcome) → Except TokenError Url → Prop where
  | unaddressed {fault : SendFault} (refused : request i = .error fault) :
      Runs i [] (.error (.http (.discoveryFailed fault)))
  | unanswered {get : HttpRequest} (asks : request i = .ok get) :
      Runs i [(get, .unanswered)] (.error (.http (.discoveryFailed (.unanswered get.url.render))))
  | replied {get : HttpRequest} (asks : request i = .ok get) (reply : HttpReply) :
      Runs i [(get, .replied reply)] (readReply get reply)

theorem ran_run {r : Except TokenError Url} (ran : (run i).Ran es r) : Runs i (sends es) r := by
  unfold run at ran
  split at ran
  · rename_i refused
    obtain ⟨rfl, rfl⟩ := Procedure.ran_done ran
    exact .unaddressed refused
  · rename_i get asks
    cases ran with
    | send _ answer ran =>
      cases answer with
      | unanswered =>
        obtain ⟨rfl, rfl⟩ := Procedure.ran_done ran
        exact .unanswered asks
      | replied reply =>
        have replied := Runs.replied asks reply
        dsimp only at ran
        split at ran
        · rename_i refused
          obtain ⟨rfl, rfl⟩ := Procedure.ran_done ran
          rwa [refused] at replied
        · rename_i named
          cases ran with
          | log _ ran =>
            obtain ⟨rfl, rfl⟩ := Procedure.ran_done ran
            rwa [named] at replied

theorem Runs.of_ok {url : Url} (runs : Runs i sent (.ok url)) :
    ∃ get reply, sent = [(get, .replied reply)] ∧ request i = .ok get ∧ readReply get reply = .ok url := by
  obtain ⟨r, named⟩ : ∃ r : Except TokenError Url, r = .ok url := ⟨_, rfl⟩
  rw [← named] at runs
  cases runs with
  | unaddressed | unanswered => cases named
  | replied asks reply => exact ⟨_, reply, rfl, asks, named⟩

theorem request_eq_ok {get : HttpRequest} (asks : request i = .ok get) : get.method = .get ∧ get.body = "" := by
  unfold request at asks
  split at asks
  · cases asks
  · exact HttpRequest.ofUrl_eq_ok asks

end Discovery

/-! ### Making the source -/

namespace Auth

variable {a : Auth} {scopes : List String} {grant : Except TokenError Grant} {r : Except TokenError TokenSource}

/-- The exchange of a grant at an endpoint that an issuer has named. -/
def exchange (i : Issuer) (scopes : List String) (g : Grant) (url : Url) : Exchange :=
  ⟨g, Exchange.joinScopes scopes, ⟨url, i.tls && i.skipVerify⟩⟩

/-- The requests that are sent to make a token source, and what comes of it: a case for each step that can be the last. -/
inductive Inits (i : Issuer) (scopes : List String) (grant : Except TokenError Grant) :
    List (HttpRequest × HttpOutcome) → Except TokenError TokenSource → Prop where
  | undiscovered {sent : List (HttpRequest × HttpOutcome)} {e : TokenError}
      (refused : Discovery.Runs i sent (.error e)) : Inits i scopes grant sent (.error e)
  | keyless {sent : List (HttpRequest × HttpOutcome)} {url : Url} {e : TokenError}
      (discovered : Discovery.Runs i sent (.ok url)) (refused : grant = .error e) : Inits i scopes grant sent (.error e)
  | failed {sent later : List (HttpRequest × HttpOutcome)} {url : Url} {g : Grant} {e : TokenError}
      (discovered : Discovery.Runs i sent (.ok url)) (granted : grant = .ok g)
      (exchanged : Exchange.Runs (exchange i scopes g url) later (.failed e)) :
      Inits i scopes grant (sent ++ later) (.error e)
  | primed {sent later : List (HttpRequest × HttpOutcome)} {url : Url} {g : Grant} {t : AccessToken}
      (discovered : Discovery.Runs i sent (.ok url)) (granted : grant = .ok g)
      (exchanged : Exchange.Runs (exchange i scopes g url) later (.token t)) (now : Instant) :
      Inits i scopes grant (sent ++ later)
        (.ok (.refreshing (exchange i scopes g url) (.primed now defaultExpiryMargin t)))

theorem ran_prime {x : Exchange} (ran : (TokenSource.prime x).Ran es r) :
    (∃ e, Exchange.Runs x (sends es) (.failed e) ∧ r = .error e) ∨
      ∃ t now, Exchange.Runs x (sends es) (.token t) ∧ r = .ok (.refreshing x (.primed now defaultExpiryMargin t)) := by
  obtain ⟨first, later, o, rfl, exchanged, ran⟩ := Procedure.ran_bind ran
  have runs := Exchange.ran_run exchanged
  cases ran with
  | log _ ran =>
    cases o with
    | failed e =>
      obtain ⟨rfl, rfl⟩ := Procedure.ran_done ran
      exact .inl ⟨e, by simpa using runs, rfl⟩
    | token t =>
      cases ran with
      | clock now ran =>
        obtain ⟨rfl, rfl⟩ := Procedure.ran_done ran
        exact .inr ⟨t, now.clock, by simpa using runs, rfl⟩

theorem ran_exchanging (ran : (exchanging i scopes grant).Ran es r) : Inits i scopes grant (sends es) r := by
  obtain ⟨first, later, found, rfl, here, there⟩ := Procedure.ran_bind ran
  have discovered := Discovery.ran_run here
  rw [Event.sends_append]
  cases found with
  | error e =>
    obtain ⟨rfl, rfl⟩ := Procedure.ran_done there
    rw [Event.sends_nil, List.append_nil]
    exact .undiscovered discovered
  | ok url =>
    cases grant with
    | error e =>
      obtain ⟨rfl, rfl⟩ := Procedure.ran_done there
      rw [Event.sends_nil, List.append_nil]
      exact .keyless discovered rfl
    | ok g =>
      obtain ⟨e, exchanged, rfl⟩ | ⟨t, now, exchanged, rfl⟩ := ran_prime there
      · exact .failed discovered rfl exchanged
      · exact .primed discovered rfl exchanged now

end Auth

end IdentityClient
