import IdentityClient.Provider.Discovery
import IdentityClient.TokenSource

/-!
# Authentication settings

How a client comes by its tokens. From a setting and an issuer a token source is made once, when the
client is built: where tokens are exchanged for, the endpoint is discovered and the first exchange made
then, so that wrong credentials fail at once.
-/

namespace IdentityClient

inductive Auth where
  | personalAccessToken (token : String)
  | jwtProfile (key : ServiceKey) (scopes : List String)
  | password (client : BasicCredentials) (scopes : List String)
  /-- A source made by the caller. -/
  | custom (init : Issuer → Procedure (Except TokenError TokenSource))

namespace Auth

/-- The scopes that a service user needs to call the interfaces. -/
def defaultScopes : List String := ["openid", "urn:zitadel:iam:org:project:id:zitadel:aud"]

/-- A service key with the default scopes. -/
def serviceUser (key : ServiceKey) : Auth := .jwtProfile key defaultScopes

def kind : Auth → String
  | .personalAccessToken _ => "personal access token"
  | .jwtProfile _ _ => "JWT profile"
  | .password _ _ => "client credentials"
  | .custom _ => "custom"

def render : Auth → String
  | .personalAccessToken _ => renderWrapped "PersonalAccessToken" redacted
  | .jwtProfile key scopes =>
    renderRecord "JwtProfile" [("key", key.render), ("scopes", renderList (scopes.map quoted))]
  | .password client scopes =>
    renderRecord "Password" [("client_id", quoted client.user), ("client_secret", redacted),
      ("scopes", renderList (scopes.map quoted))]
  | .custom _ => "Custom(..)"

/-- What is logged before the token source is made. -/
def initializing (a : Auth) (i : Issuer) : LogRecord :=
  .info ("initializing " ++ a.kind ++ " token source for " ++ i.origin)

/-- Discovers the token endpoint, makes the grant, and makes the first exchange. -/
def exchanging (i : Issuer) (scopes : List String) (grant : Except TokenError Grant) :
    Procedure (Except TokenError TokenSource) :=
  (Discovery.run i).bind fun
    | .error e => .done (.error e)
    | .ok url =>
      match grant with
      | .error e => .done (.error e)
      | .ok grant =>
        TokenSource.prime ⟨grant, Exchange.joinScopes scopes, ⟨url, i.tls && i.skipVerify⟩⟩

/-- The grant of a service key's owner, for an audience. -/
def keyGrant (key : ServiceKey) (audience : String) : Except TokenError Grant :=
  match key.signingKey with
  | .error fault => .error (.signing fault)
  | .ok keyBytes => .ok (.assertion key keyBytes audience)

/-- Makes the token source for an issuer, the log aside. -/
def source (a : Auth) (i : Issuer) : Procedure (Except TokenError TokenSource) :=
  match a with
  | .personalAccessToken token =>
    .done (if token = "" then .error (.invalidKey .emptyAccessToken) else .ok (.fixed (.bearer token)))
  | .jwtProfile key scopes => exchanging i scopes (keyGrant key i.origin)
  | .password client scopes => exchanging i scopes (.ok (.clientCredentials client))
  | .custom init => init i

/-- Makes the token source for an issuer. -/
def init (a : Auth) (i : Issuer) : Procedure (Except TokenError TokenSource) :=
  .log (a.initializing i) (a.source i)

end Auth

end IdentityClient
