import IdentityClient.Issuer
import IdentityClient.Json.Record
import IdentityClient.Procedure
import IdentityClient.TokenError

/-!
# Discovery of the token endpoint

An identity provider publishes a document under the origin of its issuer, which names the URL where
tokens are handed out.
-/

namespace IdentityClient.Discovery

def path : String := "/.well-known/openid-configuration"

/-- Where the document of an issuer is published. -/
def address (origin : String) : String :=
  String.ofList (origin.toList.reverse.dropWhile (· == '/')).reverse ++ path

def schema : Json.Schema := ⟨"DiscoveryDocument", [⟨"token_endpoint", .text⟩]⟩

/-- The request for the document of an issuer. -/
def request (i : Issuer) : Except SendFault HttpRequest :=
  match Url.parse (address i.origin) with
  | .error _ => .error .notUrl
  | .ok u => HttpRequest.ofUrl .get u (i.tls && i.skipVerify)

/-- The token endpoint that the body of a reply names. -/
def readDocument (body : Option Bytes) : Except TokenError Url :=
  match (body.map (Json.recordOfBytes schema)).bind (·.toOption) with
  | none => .error (.invalidResponse .discoveryDocument)
  | some document =>
    match Url.parse (document.text "token_endpoint") with
    | .error fault => .error (.invalidResponse (.endpointUrl fault))
    | .ok u => .ok u

/-- The token endpoint that the reply to `request` names. -/
def readReply (request : HttpRequest) (r : HttpReply) : Except TokenError Url :=
  if r.status.isClientError || r.status.isServerError then
    .error (.http (.discoveryRefused ⟨r.status, r.reason, request.url.render⟩))
  else readDocument r.body

/-- What is logged when the endpoint is known. -/
def discovered (endpoint : Url) : LogRecord := .debug ("discovered token endpoint " ++ endpoint.render)

/-- Asks for the token endpoint of an issuer. -/
def run (i : Issuer) : Procedure (Except TokenError Url) :=
  match request i with
  | .error fault => .done (.error (.http (.discoveryFailed fault)))
  | .ok r =>
    .send r fun
      | .unanswered => .done (.error (.http (.discoveryFailed (.unanswered r.url.render))))
      | .replied reply =>
        match readReply r reply with
        | .error e => .done (.error e)
        | .ok endpoint => .log (discovered endpoint) (.done (.ok endpoint))

end IdentityClient.Discovery
