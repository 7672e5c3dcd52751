import IdentityClient.Assertion
import IdentityClient.Provider.TokenEndpoint

/-!
# Exchanges of a credential for a token

The owner of a service key posts an assertion signed for the occasion; a service user with a client
secret sends it with the request. The scopes asked for are joined by spaces, and left out if there are
none.
-/

namespace IdentityClient

inductive Grant where
  /-- An assertion signed with an encoded key. -/
  | assertion (key : ServiceKey) (keyBytes : Bytes) (audience : String)
  | clientCredentials (client : BasicCredentials)
  deriving DecidableEq, Repr

namespace Grant

def assertionType : String := "urn:ietf:params:oauth:grant-type:jwt-bearer"
def clientCredentialsType : String := "client_credentials"

/-- The field for a joined list of scopes. -/
def scopeField (scope : String) : List (String × String) := if scope = "" then [] else [("scope", scope)]

/-- What is posted for a grant at a date, in seconds since 1970. -/
def request (g : Grant) (scope : String) (date : Nat) : Except TokenError TokenRequest :=
  match g with
  | .assertion key keyBytes audience =>
    match key.sign keyBytes audience date with
    | .error fault => .error (.signing fault)
    | .ok text =>
      .ok ⟨("grant_type", assertionType) :: ("assertion", text) :: scopeField scope, none⟩
  | .clientCredentials client =>
    .ok ⟨("grant_type", clientCredentialsType) :: scopeField scope, some client⟩

end Grant

/-- How a token source comes by its tokens. -/
structure Exchange where
  grant : Grant
  /-- The scopes, joined. -/
  scope : String
  endpoint : TokenEndpoint
  deriving DecidableEq, Repr

namespace Exchange

def joinScopes (scopes : List String) : String := " ".intercalate scopes

/-- One exchange. -/
def run (e : Exchange) : Procedure TokenOutcome :=
  .clock fun now =>
    match e.grant.request e.scope now.date with
    | .error fault => .done (.failed fault)
    | .ok r => e.endpoint.ask r

/-- An exchange, rendered with the text of its endpoint. -/
def render (e : Exchange) (endpoint : String) : String :=
  match e.grant with
  | .assertion key _ audience =>
    renderRecord "JwtProfileExchange" [("key", key.render), ("audience", quoted audience),
      ("scope", quoted e.scope), ("endpoint", endpoint)]
  | .clientCredentials client =>
    renderRecord "ClientCredentialsExchange" [("client_id", quoted client.user),
      ("client_secret", redacted), ("scope", quoted e.scope)]

end Exchange

end IdentityClient
