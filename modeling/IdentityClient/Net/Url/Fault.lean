/-!
# Why a text is no URL
-/

namespace IdentityClient

inductive UrlFault where
  | emptyHost
  | internationalName
  | badPort
  | badIpv4
  | badIpv6
  | hostCharacter
  | noBase
  deriving DecidableEq, Repr

def UrlFault.message : UrlFault → String
  | .emptyHost => "empty host"
  | .internationalName => "invalid international domain name"
  | .badPort => "invalid port number"
  | .badIpv4 => "invalid IPv4 address"
  | .badIpv6 => "invalid IPv6 address"
  | .hostCharacter => "invalid domain character"
  | .noBase => "relative URL without a base"

end IdentityClient
