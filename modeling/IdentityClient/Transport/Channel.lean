import IdentityClient.Credentials.Policy
import IdentityClient.Issuer
import IdentityClient.Procedure
import IdentityClient.TokenSource

/-!
# The channel that calls go through

A channel goes to the issuer's network address, with TLS exactly if the issuer has it, and gives its calls
credentials. All settings are checked before the network is touched, in this order: address, origin, dial
options, TLS. A lazy channel leaves the connection to the first call.
-/

namespace IdentityClient

structure Channel where
  endpoint : Endpoint
  target : ConnectTarget
  credentials : CallCredentials
  source : Option TokenSource

namespace Channel

/-- The origin that requests name in place of the network address, which has the scheme `http` in any
case. -/
def namedOrigin (i : Issuer) : Except TransportError (Option Uri) :=
  if i.tls then i.originUri.map some else .ok none

/-- What the connection is set up with. -/
def endpointFor (i : Issuer) (options : List DialOption) : Except TransportError Endpoint :=
  match Uri.parse ("http://" ++ i.address) with
  | .error _ => .error .address
  | .ok address =>
    match namedOrigin i with
    | .error e => .error e
    | .ok origin => DialOption.applyAll options { address, origin }

/-- How TLS is spoken to an issuer, and what is logged about it. -/
def tlsFor (i : Issuer) (store : TrustStore) : Except TransportError (Option TlsSession) × List LogRecord :=
  if i.tls then
    match TlsConfig.build i.skipVerify store with
    | (.error e, log) => (.error e, log)
    | (.ok config, log) =>
      match ServerName.parse i.domain with
      | .error e => (.error e, log)
      | .ok serverName => (.ok (some ⟨config, serverName⟩), log)
  else (.ok none, [])

/-- What is logged before the TLS settings are made. -/
def connecting (i : Issuer) (settings : SocketSettings) : LogRecord :=
  .info ("connecting to " ++ i.address ++ " (tls: " ++ boolText i.tls ++ ", skip verify: " ++
    boolText (i.tls && i.skipVerify) ++ ", lazy: " ++ boolText settings.lazy ++ ")")

/-- Opens the channel's connection, unless that is left to the first call; none if this never ends. -/
def dial (c : Channel) : Procedure (Option (Except TransportError Channel)) :=
  if c.target.settings.lazy then .done (some (.ok c))
  else
    .connect c.target fun e =>
      .logAll e.log (.done (match e.result with
        | .opened => some (.ok c)
        | .failed _ => some (.error .unreachable)
        | .endless => none))

/-- Makes the channel to an issuer; none if connecting never ends. -/
def connect (i : Issuer) (source : Option TokenSource) (options : List DialOption) (store : TrustStore) :
    Procedure (Option (Except TransportError Channel)) :=
  match endpointFor i options with
  | .error e => .done (some (.error e))
  | .ok endpoint =>
    let settings := SocketSettings.ofOptions options
    .log (connecting i settings) (
      let (tls, log) := tlsFor i store
      .logAll log (match tls with
        | .error e => .done (some (.error e))
        | .ok tls => dial ⟨endpoint, ⟨i.address, tls, settings⟩, ⟨i.tls, source.isSome⟩, source⟩))

end Channel

end IdentityClient
