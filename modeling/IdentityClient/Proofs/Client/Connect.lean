import IdentityClient.Client.Builder
import IdentityClient.Proofs.Procedure

/-!
# How connecting ends

The ways in which a channel, and then a connection, is made or fails to be made, with what happens on the way: one case
for each step that can be the last.
-/

namespace IdentityClient

open Procedure (Ran)

/-! ### Settings that fail -/

namespace DialOption

variable {endpoint : Endpoint} {e : TransportError}

theorem error_of_apply {o : DialOption} (fails : o.apply endpoint = .error e) : ∃ text, e = .dialOption text := by
  cases o with
  | userAgent text =>
    rw [apply] at fails
    split at fails <;> cases fails
    exact ⟨_, rfl⟩
  | _ => cases fails

theorem error_of_applyAll {options : List DialOption} (fails : applyAll options endpoint = .error e) :
    ∃ text, e = .dialOption text := by
  induction options generalizing endpoint with
  | nil => cases fails
  | cons o os ih =>
    rw [applyAll] at fails
    split at fails
    · rename_i refused
      rw [← Except.error.inj fails]
      exact error_of_apply refused
    · exact ih fails

end DialOption

theorem ServerName.error_of_parse {domain : String} {e : TransportError} (fails : parse domain = .error e) :
    e = .serverName domain := by
  unfold parse at fails
  dsimp only at fails
  repeat' split at fails
  all_goals cases fails
  rfl

theorem TlsConfig.error_of_build {skipVerify : Bool} {store : TrustStore} {e : TransportError} {log : List LogRecord}
    (fails : build skipVerify store = (.error e, log)) : e = .noRoots := by
  unfold build at fails
  repeat' split at fails
  all_goals cases fails
  rfl

namespace Channel

variable {i : Issuer} {source : Option TokenSource} {options : List DialOption} {store : TrustStore} {es : List Event}
  {r : Option (Except TransportError Channel)}

theorem error_of_endpointFor {e : TransportError} (fails : endpointFor i options = .error e) :
    ((∃ f, Uri.parse ("http://" ++ i.address) = .error f) ∧ e = .address) ∨ i.originUri = .error e ∨
      ∃ text, e = .dialOption text := by
  unfold endpointFor at fails
  split at fails
  · rename_i refused
    exact .inl ⟨⟨_, refused⟩, (Except.error.inj fails).symm⟩
  · split at fails
    · rename_i refused
      refine .inr (.inl ?_)
      rw [← Except.error.inj fails]
      unfold namedOrigin at refused
      split at refused
      · cases named : i.originUri with
        | error e =>
          rw [named] at refused
          exact congrArg Except.error (Except.error.inj refused)
        | ok u =>
          rw [named] at refused
          cases refused
      · cases refused
    · exact .inr (.inr (DialOption.error_of_applyAll fails))

theorem error_of_tlsFor {e : TransportError} (fails : (tlsFor i store).1 = .error e) :
    i.tls = true ∧ (e = .noRoots ∨ e = .serverName i.domain) := by
  unfold tlsFor at fails
  split at fails
  · rename_i tls
    refine ⟨tls, ?_⟩
    split at fails
    · rename_i built
      cases fails
      exact .inl (TlsConfig.error_of_build built)
    · split at fails
      · rename_i refused
        cases fails
        exact .inr (ServerName.error_of_parse refused)
      · cases fails
  · cases fails

/-! ### Making a channel -/

/-- What is logged before the connection is opened. -/
def notes (i : Issuer) (options : List DialOption) (store : TrustStore) : List Event :=
  (connecting i (SocketSettings.ofOptions options) :: (tlsFor i store).2).map .logged

/-- The channel, once its settings are checked. -/
def ofSettings (i : Issuer) (source : Option TokenSource) (options : List DialOption) (endpoint : Endpoint)
    (tls : Option TlsSession) : Channel :=
  ⟨endpoint, ⟨i.address, tls, SocketSettings.ofOptions options⟩, ⟨i.tls, source.isSome⟩, source⟩

/-- What becomes of a channel when its connection was opened, or was not. -/
def opened (c : Channel) : ConnectResult → Option (Except TransportError Channel)
  | .opened => some (.ok c)
  | .failed _ => some (.error .unreachable)
  | .endless => none

inductive Connects (i : Issuer) (source : Option TokenSource) (options : List DialOption) (store : TrustStore) :
    List Event → Option (Except TransportError Channel) → Prop where
  | endpoint {e : TransportError} (fails : endpointFor i options = .error e) :
      Connects i source options store [] (some (.error e))
  | tls {endpoint : Endpoint} {e : TransportError} (set : endpointFor i options = .ok endpoint)
      (fails : (tlsFor i store).1 = .error e) :
      Connects i source options store (notes i options store) (some (.error e))
  | lazy {endpoint : Endpoint} {tls : Option TlsSession} (set : endpointFor i options = .ok endpoint)
      (speaks : (tlsFor i store).1 = .ok tls) (waits : (SocketSettings.ofOptions options).lazy = true) :
      Connects i source options store (notes i options store) (some (.ok (ofSettings i source options endpoint tls)))
  | dialed {endpoint : Endpoint} {tls : Option TlsSession} (set : endpointFor i options = .ok endpoint)
      (speaks : (tlsFor i store).1 = .ok tls) (eager : (SocketSettings.ofOptions options).lazy = false)
      (e : ConnectEnd) :
      Connects i source options store
        (notes i options store ++ .connected (ofSettings i source options endpoint tls).target e :: e.log.map .logged)
        ((ofSettings i source options endpoint tls).opened e.result)

/-- A channel fails in its settings, or when its connection is not opened. -/
theorem Connects.error {e : TransportError} (fails : Connects i source options store es (some (.error e))) :
    endpointFor i options = .error e ∨ (tlsFor i store).1 = .error e ∨ e = .unreachable := by
  generalize ended : some (Except.error e) = r at fails
  cases fails with
  | endpoint fails => cases ended; exact .inl fails
  | tls _ fails => cases ended; exact .inr (.inl fails)
  | lazy _ _ _ => cases ended
  | dialed _ _ _ made =>
    cases result : made.result <;> rw [result] at ended <;> cases ended
    exact .inr (.inr rfl)

/-- A channel that is made has passed every check. -/
theorem Connects.ok {c : Channel} (made : Connects i source options store es (some (.ok c))) :
    ∃ endpoint tls, endpointFor i options = .ok endpoint ∧ (tlsFor i store).1 = .ok tls ∧
      c = ofSettings i source options endpoint tls := by
  generalize ended : some (Except.ok c) = r at made
  cases made with
  | endpoint | tls => cases ended
  | lazy set speaks => cases ended; exact ⟨_, _, set, speaks, rfl⟩
  | dialed set speaks _ e =>
    cases result : e.result <;> rw [result] at ended <;> cases ended
    exact ⟨_, _, set, speaks, rfl⟩

theorem ran_dial {c : Channel} (ran : c.dial.Ran es r) :
    (c.target.settings.lazy = true ∧ es = [] ∧ r = some (.ok c)) ∨ (c.target.settings.lazy = false ∧
      ∃ e, es = .connected c.target e :: e.log.map .logged ∧ r = c.opened e.result) := by
  unfold dial at ran
  split at ran
  · rename_i waits
    obtain ⟨rfl, rfl⟩ := Procedure.ran_done ran
    exact .inl ⟨waits, rfl, rfl⟩
  · rename_i eager
    cases ran with
    | connect t e ran =>
      obtain ⟨later, rfl, there⟩ := Procedure.ran_logAll ran
      obtain ⟨rfl, rfl⟩ := Procedure.ran_done there
      refine .inr ⟨by simpa using eager, e, by simp, ?_⟩
      cases e.result <;> rfl

theorem ran_connect (ran : (connect i source options store).Ran es r) : Connects i source options store es r := by
  unfold connect at ran
  split at ran
  · rename_i fails
    obtain ⟨rfl, rfl⟩ := Procedure.ran_done ran
    exact .endpoint fails
  · rename_i set
    cases ran with
    | log _ ran =>
      dsimp only at ran
      obtain ⟨later, rfl, there⟩ := Procedure.ran_logAll ran
      split at there
      · rename_i fails
        obtain ⟨rfl, rfl⟩ := Procedure.ran_done there
        rw [List.append_nil]
        exact .tls set fails
      · rename_i tls speaks
        obtain ⟨waits, rfl, rfl⟩ | ⟨eager, e, rfl, rfl⟩ := ran_dial there
        · rw [List.append_nil]
          exact .lazy set speaks waits
        · exact .dialed set speaks eager e

end Channel

namespace ClientBuilder

variable {b : ClientBuilder} {source : Option TokenSource} {store : TrustStore} {es : List Event}
  {r : Option (Except ClientError Connection)}

inductive Connects (b : ClientBuilder) (source : Option TokenSource) (store : TrustStore) :
    List Event → Option (Except ClientError Connection) → Prop where
  | origin {e : TransportError} (fails : b.issuer.originUri = .error e) :
      Connects b source store [] (some (.error (.connection e)))
  | channel {origin : Uri} {es : List Event} {e : TransportError} (names : b.issuer.originUri = .ok origin)
      (fails : Channel.Connects b.issuer source b.dialOptions store es (some (.error e))) :
      Connects b source store es (some (.error (.connection e)))
  | endless {origin : Uri} {es : List Event} (names : b.issuer.originUri = .ok origin)
      (waits : Channel.Connects b.issuer source b.dialOptions store es none) : Connects b source store es none
  | connected {origin : Uri} {es : List Event} {c : Channel} (names : b.issuer.originUri = .ok origin)
      (connects : Channel.Connects b.issuer source b.dialOptions store es (some (.ok c))) :
      Connects b source store (es ++ [.logged (connected b.issuer)]) (some (.ok ⟨c, origin⟩))

theorem ran_connectWith (ran : (b.connectWith source store).Ran es r) : Connects b source store es r := by
  unfold connectWith at ran
  split at ran
  · rename_i fails
    obtain ⟨rfl, rfl⟩ := Procedure.ran_done ran
    exact .origin fails
  · rename_i names
    obtain ⟨first, later, made, rfl, here, there⟩ := Procedure.ran_bind ran
    have connects := Channel.ran_connect here
    match made, connects, there with
    | none, waits, there =>
      obtain ⟨rfl, rfl⟩ := Procedure.ran_done there
      rw [List.append_nil]
      exact .endless names waits
    | some (.error e), fails, there =>
      obtain ⟨rfl, rfl⟩ := Procedure.ran_done there
      rw [List.append_nil]
      exact .channel names fails
    | some (.ok c), connects, .log _ there =>
      obtain ⟨rfl, rfl⟩ := Procedure.ran_done there
      exact .connected names connects

/-- A client is built with a token source that was made before, or fails as that does. -/
theorem ran_connect (ran : (b.connect store).Ran es r) :
    (∃ e, b.tokenSource.Ran es (.error e) ∧ r = some (.error (.authInit e))) ∨
      ∃ first later source, es = first ++ later ∧ b.tokenSource.Ran first (.ok source) ∧
        Connects b source store later r := by
  obtain ⟨first, later, made, rfl, here, there⟩ := Procedure.ran_bind ran
  match made, here, there with
  | .error e, here, there =>
    obtain ⟨rfl, rfl⟩ := Procedure.ran_done there
    rw [List.append_nil]
    exact .inl ⟨e, here, rfl⟩
  | .ok source, here, there => exact .inr ⟨first, later, source, rfl, here, ran_connectWith there⟩

/-- A connection that was made names the issuer's origin, and its channel was made. -/
theorem connects_of_run {w : World} {past : List Event} {conn : Connection}
    (built : ((b.connect store).run w past).2 = some (.ok conn)) :
    b.issuer.originUri = .ok conn.origin ∧
      ∃ source es, Channel.Connects b.issuer source b.dialOptions store es (some (.ok conn.channel)) := by
  obtain ⟨es, -, ran⟩ := Procedure.ran_run w past (b.connect store)
  rw [built] at ran
  obtain ⟨e, -, failed⟩ | ⟨first, later, source, -, -, connects⟩ := ran_connect ran
  · cases failed
  · generalize ended : some (Except.ok conn) = r at connects
    cases connects with
    | origin | channel | endless => cases ended
    | connected named made => cases ended; exact ⟨named, source, _, made⟩

end ClientBuilder

end IdentityClient
