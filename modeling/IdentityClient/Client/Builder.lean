import IdentityClient.Auth
import IdentityClient.Client.Registry
import IdentityClient.ClientError
import IdentityClient.Transport.Channel

/-!
# Building a client

A builder collects the issuer, how to authenticate, and dial options. Building makes the token source
first, then checks the issuer's origin, then connects; the first of these to fail decides the error, and
nothing after it is done.
-/

namespace IdentityClient

structure ClientBuilder where
  issuer : Issuer
  /-- Without it, calls carry no token. -/
  auth : Option Auth
  dialOptions : List DialOption

/-- What calls are made over, and the origin that they name. -/
structure Connection where
  channel : Channel
  origin : Uri

namespace ClientBuilder

def ofIssuer (i : Issuer) : ClientBuilder := ⟨i, none, []⟩

/-- The builder with an authentication setting in place of any earlier one. -/
def withAuth (b : ClientBuilder) (a : Auth) : ClientBuilder := { b with auth := some a }

/-- The builder with more dial options behind those it has. -/
def withDialOptions (b : ClientBuilder) (options : List DialOption) : ClientBuilder :=
  { b with dialOptions := b.dialOptions ++ options }

/-- Makes the token source, if there is to be one. -/
def tokenSource (b : ClientBuilder) : Procedure (Except TokenError (Option TokenSource)) :=
  match b.auth with
  | none => .done (.ok none)
  | some a => (a.init b.issuer).bind fun r => .done (r.map some)

/-- What is logged at the end. -/
def connected (i : Issuer) : LogRecord := .info ("connected to ZITADEL at " ++ i.origin)

/-- Connects with a token source; none if this never ends. -/
def connectWith (b : ClientBuilder) (source : Option TokenSource) (store : TrustStore) :
    Procedure (Option (Except ClientError Connection)) :=
  match b.issuer.originUri with
  | .error e => .done (some (.error (.connection e)))
  | .ok origin =>
    (Channel.connect b.issuer source b.dialOptions store).bind fun
      | none => .done none
      | some (.error e) => .done (some (.error (.connection e)))
      | some (.ok channel) => .log (connected b.issuer) (.done (some (.ok ⟨channel, origin⟩)))

/-- Makes the token source and connects; none if this never ends. -/
def connect (b : ClientBuilder) (store : TrustStore) :
    Procedure (Option (Except ClientError Connection)) :=
  b.tokenSource.bind fun
    | .error e => .done (some (.error (.authInit e)))
    | .ok source => b.connectWith source store

end ClientBuilder

namespace Connection

/-- The client over a connection. -/
def client (c : Connection) : Client := .ofOrigin c.origin

/-- A single stub over a connection, without a client. -/
def stub (c : Connection) (v : ApiService) : Stub := ⟨v, c.origin, 0⟩

end Connection

namespace ClientBuilder

/-- Builds the client; none if connecting never ends. -/
def build (b : ClientBuilder) (store : TrustStore) : Procedure (Option (Except ClientError Client)) :=
  (b.connect store).bind fun r => .done (r.map (·.map Connection.client))

/-- Connects a single stub instead; none if connecting never ends. -/
def connectStub (b : ClientBuilder) (v : ApiService) (store : TrustStore) :
    Procedure (Option (Except ClientError Stub)) :=
  (b.connect store).bind fun r => .done (r.map (·.map (Connection.stub · v)))

end ClientBuilder

end IdentityClient
