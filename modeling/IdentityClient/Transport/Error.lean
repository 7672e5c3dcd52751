import IdentityClient.Net.Uri

/-!
# Why a connection cannot be made
-/

namespace IdentityClient

inductive TransportError where
  /-- The issuer's domain is no TLS server name. -/
  | serverName (domain : String)
  /-- No root certificate is trusted. -/
  | noRoots
  /-- The issuer does not form a request target. -/
  | uri (fault : UriFault)
  /-- A dial option carries a value that cannot be used. -/
  | dialOption (description : String)
  /-- The network address is no URI. -/
  | address
  /-- The connection attempt itself failed. -/
  | unreachable
  deriving DecidableEq, Repr

def TransportError.message : TransportError → String
  | .serverName domain => "invalid TLS server name: " ++ domain
  | .noRoots => "no native root CA certificates found"
  | .uri fault => "invalid connection URI: " ++ fault.message
  | .dialOption description => "invalid dial option: " ++ description
  | .address => "invalid URI"
  | .unreachable => "transport error"

end IdentityClient
