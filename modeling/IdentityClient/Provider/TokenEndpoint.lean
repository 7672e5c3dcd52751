import IdentityClient.Json.Record
import IdentityClient.Procedure
import IdentityClient.Token.Outcome

/-!
# The token endpoint

A grant is posted as a form, and the reply holds a bearer token or says why there is none.
-/

namespace IdentityClient

structure TokenEndpoint where
  url : Url
  /-- Whether any certificate of the server is accepted. -/
  acceptAnyCertificate : Bool
  deriving DecidableEq, Repr

/-- What is posted for a token. -/
structure TokenRequest where
  form : List (String × String)
  basic : Option BasicCredentials
  deriving DecidableEq, Repr

namespace TokenEndpoint

def tokenSchema : Json.Schema :=
  ⟨"TokenResponse", [⟨"access_token", .text⟩, ⟨"expires_in", .optionalWord⟩, ⟨"token_type", .optionalText⟩]⟩

def errorSchema : Json.Schema :=
  ⟨"ErrorResponse", [⟨"error", .text⟩, ⟨"error_description", .optionalText⟩]⟩

/-- Whether a token type is `bearer`, in any case. -/
def isBearer (type : String) : Bool := type.toList.map Char.toLower == "bearer".toList

/-- The token that a response read at `now` gives. -/
def tokenOfResponse (now : Instant) (response : Json.Record) : TokenOutcome :=
  let type := (response.text? "token_type").getD "bearer"
  let secret := response.text "access_token"
  if !isBearer type then .failed (.unsupportedTokenType type)
  else if secret = "" then .failed (.invalidResponse .emptyToken)
  else
    let token := AccessToken.bearer secret
    match response.word? "expires_in" with
    | some secs => .token (token.expiresIn now (.ofSecs secs))
    | none => .token token

/-- Why a reply with the status of an error refuses a token; a body cut short counts as empty. -/
def refusal (r : HttpReply) : TokenError :=
  match Json.recordOfBytes errorSchema (r.body.getD []) with
  | .ok response => .rejected (response.text "error") (response.text? "error_description")
  | .error _ => .http (.refused r.status)

/-- What a reply read at `now` comes to. -/
def readReply (now : Instant) (r : HttpReply) : TokenOutcome :=
  if r.status.isSuccess then
    match (r.body.map (Json.recordOfBytes tokenSchema)).bind (·.toOption) with
    | none => .failed (.invalidResponse .undecodable)
    | some response => tokenOfResponse now response
  else .failed (refusal r)

/-- The HTTP request that posts a token request. -/
def post (e : TokenEndpoint) (t : TokenRequest) : Except SendFault HttpRequest :=
  match HttpRequest.ofUrl .post e.url e.acceptAnyCertificate with
  | .error fault => .error fault
  | .ok r =>
    let r := r.withForm t.form
    .ok (match t.basic with
      | some c => r.withBasic c
      | none => r)

/-- Posts a token request and reads the reply. -/
def ask (e : TokenEndpoint) (t : TokenRequest) : Procedure TokenOutcome :=
  match e.post t with
  | .error fault => .done (.failed (.http (.requestFailed fault)))
  | .ok r =>
    .send r fun
      | .unanswered => .done (.failed (.http (.requestFailed (.unanswered r.url.render))))
      | .replied reply => .clock fun now => .done (readReply now.clock reply)

end TokenEndpoint

end IdentityClient
