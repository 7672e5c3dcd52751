import IdentityClient.Net.BasicCredentials
import IdentityClient.Net.Form
import IdentityClient.Net.HttpFault
import IdentityClient.Net.Uri
import IdentityClient.Net.Url.Parser
import IdentityClient.Time

/-!
# Requests to web servers

A request goes to a URL with a host and a web scheme. User info in the URL is taken out of it and sent
as basic credentials. What comes back is the last reply of a chain of redirects, or nothing.
-/

namespace IdentityClient

inductive HttpMethod where
  | get
  | post
  deriving DecidableEq, Repr

def HttpMethod.name : HttpMethod → String
  | .get => "GET"
  | .post => "POST"

/-- How long a request may take, redirects and the body of the reply included. -/
def requestTimeout : Duration := .ofSecs 30

structure HttpRequest where
  method : HttpMethod
  url : Url
  headers : Headers := []
  body : String := ""
  /-- Whether any certificate of the server is accepted. -/
  acceptAnyCertificate : Bool := false
  /-- After this long the request counts as unanswered. -/
  limit : Duration := requestTimeout
  deriving DecidableEq, Repr

structure HttpReply where
  status : HttpStatus
  /-- The phrase that came with the status, where it is not the registered one. -/
  reason : Option Bytes := none
  /-- None if the connection ended before the end of the body. -/
  body : Option Bytes
  deriving DecidableEq, Repr

inductive HttpOutcome where
  | replied (r : HttpReply)
  /-- There was no reply, or none in time. -/
  | unanswered
  deriving DecidableEq, Repr

namespace Url

/-- The URL without user info. -/
def withoutUserInfo (u : Url) : Url := { u with username := "", password := none }

/-- The user and password in a URL; one whose name is no text has none. -/
def credentials? (u : Url) : Option BasicCredentials :=
  let text (s : String) : Option String := (Utf8.decode (Percent.decode s.toList)).toOption
  match text u.username with
  | none => none
  | some user =>
    let password := u.password.bind text
    if user = "" ∧ password.isNone then none else some ⟨user, password.getD ""⟩

end Url

namespace HttpRequest

def authorization : String := "authorization"

/-- A request that can be sent, without a body. -/
def ofUrl (method : HttpMethod) (u : Url) (acceptAnyCertificate : Bool) : Except SendFault HttpRequest :=
  let (url, headers) : Url × Headers := match u.credentials? with
    | some c => (u.withoutUserInfo, [(authorization, c.header)])
    | none => (u, [])
  if u.host.isNone then .error (.unsupported u.render)
  else if url.scheme ≠ "http" ∧ url.scheme ≠ "https" then .error (.unsupported url.render)
  else match Uri.parse url.render with
    | .error _ => .error (.unsupported url.render)
    | .ok _ => .ok { method, url, headers, acceptAnyCertificate }

/-- The request with a form as its body. -/
def withForm (r : HttpRequest) (pairs : List (String × String)) : HttpRequest :=
  { r with
    headers := r.headers.append "content-type" (.ofString Form.contentType)
    body := String.ofList (Form.encode pairs) }

/-- The request with basic credentials, behind those that its URL held. -/
def withBasic (r : HttpRequest) (c : BasicCredentials) : HttpRequest :=
  { r with headers := r.headers.append authorization c.header }

end HttpRequest

end IdentityClient
