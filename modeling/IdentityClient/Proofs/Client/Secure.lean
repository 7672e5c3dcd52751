import IdentityClient.Grpc.Call
import IdentityClient.Proofs.Client.Access
import IdentityClient.Proofs.Client.Connect
import IdentityClient.Proofs.Credentials.Plaintext
import IdentityClient.Proofs.Issuer.Target

/-!
# A client keeps to its issuer's transport

Whether TLS is used reaches a call by three ways: its credentials ask for it, the origin that it names has the scheme, and
the channel speaks it. All three come from the issuer, whatever its domain is (`Connection.Keeps`), so the calls of a
client's stubs are never refused for going out in the clear.
-/

namespace IdentityClient

variable {i : Issuer} {store : TrustStore} {es : List Event}

theorem Issuer.scheme_of_originUri {u : Uri} (named : i.originUri = .ok u) :
    u.scheme = some (if i.tls then .https else .http) := by
  have lead : ∃ rest, i.origin.toList = (webScheme i.tls).toList ++ ("://".toList ++ rest) := by
    rw [origin]
    split
    · exact ⟨i.authorityHost.toList, by simp [scheme, webScheme]⟩
    · exact ⟨(i.authorityHost ++ ":" ++ toString i.port).toList, by simp [scheme, webScheme]⟩
  obtain ⟨rest, lead⟩ := lead
  unfold originUri at named
  split at named
  · rename_i parsed
    cases named
    exact Uri.scheme_of_parse_web lead parsed
  · cases named

theorem Channel.isSome_of_tlsFor {tls : Option TlsSession} (speaks : (tlsFor i store).1 = .ok tls) :
    tls.isSome = i.tls := by
  unfold tlsFor at speaks
  split at speaks
  · rename_i secure
    rw [secure]
    split at speaks
    · cases speaks
    · split at speaks <;> cases speaks
      rfl
  · rename_i plain
    cases speaks
    simp [plain]

namespace Connection

/-- Credentials, origin and channel of a connection are as the issuer says. -/
structure Keeps (i : Issuer) (conn : Connection) : Prop where
  credentials : conn.channel.credentials.requiresTls = i.tls
  origin : conn.origin.scheme = some (if i.tls then .https else .http)
  channel : conn.channel.target.tls.isSome = i.tls

theorem keeps_of_connects {source : Option TokenSource} {options : List DialOption} {c : Channel} {origin : Uri}
    (named : i.originUri = .ok origin) (made : Channel.Connects i source options store es (some (.ok c))) :
    Keeps i ⟨c, origin⟩ := by
  obtain ⟨endpoint, tls, -, speaks, rfl⟩ := made.ok
  exact ⟨rfl, Issuer.scheme_of_originUri named, Channel.isSome_of_tlsFor speaks⟩

variable {conn : Connection} {s : Stub} {call : Grpc.Call} {r : Request}

theorem Keeps.of_run {b : ClientBuilder} {w : World} {past : List Event}
    (built : ((b.connect store).run w past).2 = some (.ok conn)) : Keeps b.issuer conn := by
  obtain ⟨named, source, es, made⟩ := ClientBuilder.connects_of_run built
  exact keeps_of_connects named made

/-- A stub of the connection: one of its client, or one without a client. -/
inductive HasStub (conn : Connection) : Stub → Prop where
  | ofClient {v : ApiService} {s : Stub} (as : List Access)
      (given : (Client.after conn.client.origin as).stub? v = some s) :
      HasStub conn s
  | alone (v : ApiService) : HasStub conn (conn.stub v)

theorem HasStub.origin (h : conn.HasStub s) : s.origin = conn.origin := by
  cases h with
  | ofClient as given => exact ((Client.Sound.after conn.client.origin as).own _ _ given).2
  | alone v => rfl

theorem scheme_of_request {origin : Uri} (asked : call.request origin = .ok r) : r.uri.scheme = origin.scheme := by
  unfold Grpc.Call.request at asked
  split at asked
  · cases asked
  · cases asked
    unfold Grpc.atOrigin
    dsimp only
    split <;> rfl

theorem Keeps.passes (k : Keeps i conn) (stub : conn.HasStub s) (asked : call.request s.origin = .ok r) :
    conn.channel.credentials.refuses r.uri = false := by
  have scheme : r.uri.scheme = some (if i.tls then .https else .http) := by
    rw [scheme_of_request asked, stub.origin, k.origin]
  rw [CallCredentials.refuses, k.credentials, scheme]
  cases i.tls <;> rfl

end Connection

/-- However a client is built, or a single stub is connected: the credentials ask for TLS, and the origin is `https`,
exactly if the issuer has TLS, and so has the channel. No call of a stub is rejected for want of TLS. -/
theorem ClientBuilder.connect_keeps_transport {b : ClientBuilder} {w : World} {past : List Event} {conn : Connection}
    (built : ((b.connect store).run w past).2 = some (.ok conn)) :
    conn.channel.credentials.requiresTls = b.issuer.tls ∧
    conn.origin.scheme = some (if b.issuer.tls then .https else .http) ∧
    conn.channel.target.tls.isSome = b.issuer.tls ∧
    ∀ {ρ : Type} {as : List (Credentials.Action ρ)} {s : Credentials.State ρ} (stub : Stub) (call : Grpc.Call)
      (r : Request) (c : Credentials.CallId) (v : Credentials.ServiceId), conn.HasStub stub →
      call.request stub.origin = .ok r → Credentials.Run conn.channel.credentials as s → .call c v r ∈ as →
        .ended c (.rejected .insecureTransport) ∉ s.history := by
  have keeps := Connection.Keeps.of_run built
  refine ⟨keeps.credentials, keeps.origin, keeps.channel, ?_⟩
  intro ρ as s stub call r c v has asked run made ended
  exact run.not_insecure made (keeps.passes has asked) ended rfl

theorem ClientBuilder.connect_keeps_transport_lazily :
    let b : ClientBuilder := ⟨.ofDomain "example.com", none, [.lazy]⟩
    ∃ conn : Connection, ((b.connect ⟨1⟩).run .silent []).2 = some (.ok conn) ∧
      conn.channel.credentials.requiresTls = true ∧ conn.origin.scheme = some .https ∧
      ∃ (r : Request) (s : Credentials.State Nat),
        Grpc.Call.request ⟨"svc", "Method", [], [], none⟩ (conn.stub .auth).origin = .ok r ∧
        Credentials.Run conn.channel.credentials [.call 0 0 r, .ready 0] s ∧
          .ended 0 (.rejected .insecureTransport) ∉ s.history := by
  intro b
  let origin : Uri := ⟨some .https, some "example.com", ⟨"", none⟩⟩
  let endpoint : Endpoint := { address := ⟨some .http, some "example.com:443", ⟨"", none⟩⟩, origin := some origin }
  let tls : TlsSession := ⟨⟨true, ["h2"]⟩, .dns "example.com"⟩
  let conn : Connection := ⟨.ofSettings b.issuer none [.lazy] endpoint (some tls), origin⟩
  have named : (Issuer.ofDomain "example.com").originUri = .ok origin := eq_ok_of_toOption (by decide +kernel)
  have set : Channel.endpointFor (.ofDomain "example.com") [.lazy] = .ok endpoint :=
    eq_ok_of_toOption (by decide +kernel)
  have speaks : Channel.tlsFor (.ofDomain "example.com") ⟨1⟩ = (.ok (some tls), []) := rfl
  have built : ((b.connect ⟨1⟩).run .silent []).2 = some (.ok conn) := by
    simp only [b, connect, tokenSource, connectWith, Procedure.bind, named, Channel.connect, set, speaks]
    rfl
  obtain ⟨credentials, scheme, -, calls⟩ := connect_keeps_transport built
  let call : Grpc.Call := ⟨"svc", "Method", [], [], none⟩
  let r : Request := ⟨"POST", { origin with target := ⟨"/svc/Method", none⟩ }, call.headers, Grpc.frame []⟩
  have asked : call.request (conn.stub .auth).origin = .ok r := eq_ok_of_toOption (by decide)
  have run := Credentials.Run.first_call (ρ := Nat) conn.channel.credentials r
  exact ⟨conn, built, credentials, scheme, r, _, asked, run, calls _ call r 0 0 (.alone .auth) asked run (by simp)⟩

end IdentityClient
