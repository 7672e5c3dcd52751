import IdentityClient.Issuer.Error
import IdentityClient.Net.Uri
import IdentityClient.Net.Url.Parser
import IdentityClient.Text.Blank
import IdentityClient.Transport.Error

/-!
# Issuers

An issuer names the instance that a client talks to: its domain, its port, and whether the connection
uses TLS. It is written as an origin, `scheme://domain[:port]`; a text is read as a URL that holds no
more than that, `https` being understood where no scheme is given.
-/

namespace IdentityClient

structure Issuer where
  domain : String
  port : Nat
  tls : Bool
  /-- Whether a TLS connection accepts any certificate. -/
  skipVerify : Bool
  deriving DecidableEq, Repr

namespace Issuer

def tlsPort : Nat := 443
def plainPort : Nat := 80

/-- The issuer of a domain, with TLS on the usual port. -/
def ofDomain (domain : String) : Issuer := ⟨domain, tlsPort, true, false⟩

/-- The issuer on another port. -/
def withPort (i : Issuer) (port : Nat) : Issuer := { i with port }

/-- The issuer without TLS, on `port`. -/
def insecure (i : Issuer) (port : Nat) : Issuer := { i with port, tls := false }

/-- The issuer with any certificate accepted. -/
def acceptAnyCertificate (i : Issuer) : Issuer := { i with skipVerify := true }

/-! ### Written forms -/

/-- The domain as it stands in an authority: an IPv6 address is put into brackets. -/
def authorityHost (i : Issuer) : String :=
  if i.domain.toList.contains ':' then "[" ++ i.domain ++ "]" else i.domain

def scheme (i : Issuer) : String := if i.tls then "https" else "http"

def defaultPort (i : Issuer) : Nat := if i.tls then tlsPort else plainPort

/-- The network address, `domain:port`. -/
def address (i : Issuer) : String := i.authorityHost ++ ":" ++ toString i.port

/-- `scheme://domain`, and the port if it is not the usual one. -/
def origin (i : Issuer) : String :=
  let base := i.scheme ++ "://" ++ i.authorityHost
  if i.port = i.defaultPort then base else base ++ ":" ++ toString i.port

/-- The target of requests to the issuer. -/
def originUri (i : Issuer) : Except TransportError Uri :=
  match Uri.parse i.origin with
  | .ok u => .ok u
  | .error e => .error (.uri e)

/-! ### Reading -/

/-- Whether `part` occurs in `cs`. -/
def hasInfix (part : List Char) : List Char → Bool
  | [] => part.isEmpty
  | c :: cs => part.isPrefixOf (c :: cs) || hasInfix part cs

/-- Blank space at the ends is dropped, and a text without scheme gets one. -/
def completeUrl (text : List Char) : List Char :=
  let trimmed := trimBlank text
  if hasInfix "://".toList trimmed then trimmed else "https://".toList ++ trimmed

/-- The domain of a host, none if it is empty. -/
def domainOf? : Option Host → Option String
  | some (.domain name) => if name.isEmpty then none else some name
  | some (.ipv4 a) => some a.render
  | some (.ipv6 a) => some a.render
  | none => none

/-- Whether the scheme uses TLS, none for a scheme that no issuer has. -/
def schemeTls? (scheme : String) : Option Bool :=
  if scheme = "https" then some true else if scheme = "http" then some false else none

/-- The issuer that a URL names. -/
def ofUrl (u : Url) : Except IssuerError Issuer :=
  if u.username ≠ "" ∨ u.password.isSome then .error .userInfo
  else if u.query.isSome then .error .query
  else if u.fragment.isSome then .error .fragment
  else if u.path.render ≠ "" ∧ u.path.render ≠ "/" then .error .path
  else match schemeTls? u.scheme with
    | none => .error .badScheme
    | some tls =>
      match domainOf? u.host with
      | none => .error .noHost
      | some domain =>
        .ok ⟨domain, u.port.getD (if tls then tlsPort else plainPort), tls, false⟩

/-- The issuer that a text names. -/
def parse (text : String) : Except IssuerError Issuer :=
  match Url.parseChars (completeUrl text.toList) with
  | .error e => .error (.notUrl e)
  | .ok u => ofUrl u

/-- The issuer that the environment names; a value that is no text counts as none. -/
def ofEnvironment (value : Option Bytes) : Except IssuerError Issuer :=
  match value.bind fun bytes => (Utf8.decode bytes).toOption with
  | none => .error .missingVariable
  | some text => parse text

end Issuer

end IdentityClient
