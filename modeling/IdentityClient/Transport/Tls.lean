import IdentityClient.Log
import IdentityClient.Net.Ipv6
import IdentityClient.Transport.Error

/-!
# TLS settings

The name that a server must prove, and whether it has to: certificates are checked against the roots
that the system trusts, or not at all. HTTP/2 is the only protocol offered.
-/

namespace IdentityClient

/-- What a TLS server proves to be: a DNS name, or an address in its canonical form. -/
inductive ServerName where
  | dns (name : String)
  | ip (text : String)
  deriving DecidableEq, Repr

namespace ServerName

def maxNameLength : Nat := 253
def maxLabelLength : Nat := 63

def isLabelChar (c : Char) : Bool := c.isAlphanum || c == '-' || c == '_'

/-- One to 63 letters, digits, hyphens and underscores, with no hyphen at either end. -/
def isLabel (label : List Char) : Bool :=
  !label.isEmpty && label.length ≤ maxLabelLength && label.all isLabelChar &&
    label.head? != some '-' && label.getLast? != some '-'

/-- Labels between dots, one dot at the end allowed; the last label is no number. -/
def isDnsName (cs : List Char) : Bool :=
  let labels := Ipv4.hostParts cs
  cs.length ≤ maxNameLength && !labels.isEmpty && labels.all isLabel &&
    (match labels.getLast? with
      | some last => !last.all Char.isDigit
      | none => false)

/-- The name of a server in a domain. -/
def parse (domain : String) : Except TransportError ServerName :=
  let cs := domain.toList
  if isDnsName cs then .ok (.dns domain)
  else match Ipv4.parseStrict? cs with
    | some a => .ok (.ip a.render)
    | none =>
      match Ipv6.parse? cs with
      | some a => .ok (.ip a.render)
      | none => .error (.serverName domain)

end ServerName

/-- The certificates that the system trusts. -/
structure TrustStore where
  /-- How many usable root certificates there are. -/
  roots : Nat
  deriving DecidableEq, Repr

structure TlsConfig where
  /-- Whether the server's certificates are checked. -/
  verify : Bool
  /-- The protocols offered. -/
  alpn : List String
  deriving DecidableEq, Repr

namespace TlsConfig

/-- What is logged when certificates are not checked. -/
def skipWarning : LogRecord :=
  .warn "TLS certificate verification is disabled for the ZITADEL connection"

/-- The settings for a connection, and what is logged about them. Without checks no trusted root is
needed. -/
def build (skipVerify : Bool) (store : TrustStore) : Except TransportError TlsConfig × List LogRecord :=
  if skipVerify then (.ok ⟨false, ["h2"]⟩, [skipWarning])
  else if store.roots = 0 then (.error .noRoots, [])
  else (.ok ⟨true, ["h2"]⟩, [])

end TlsConfig

end IdentityClient
