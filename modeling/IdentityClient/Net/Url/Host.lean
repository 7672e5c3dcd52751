import IdentityClient.Net.Ipv6
import IdentityClient.Net.Url.Fault
import IdentityClient.Net.Url.Idna.Name
import IdentityClient.Net.Url.Percent

/-!
# Hosts in URLs

The host of a web URL is a domain name, which is brought into its ASCII form, or an address. Any other
URL has a host that is only checked for characters that cannot stand in it.
-/

namespace IdentityClient

inductive Host where
  | domain (name : String)
  | ipv4 (a : Ipv4)
  | ipv6 (a : Ipv6)
  deriving DecidableEq, Repr

namespace Host

/-- The host as it stands in a URL, where no IPv6 address shows an IPv4 one. -/
def render : Host → String
  | .domain name => name
  | .ipv4 a => a.render
  | .ipv6 a => "[" ++ a.renderGroups ++ "]"

/-- An address in brackets, without the first of them. -/
def parseBracketed (rest : List Char) : Except UrlFault Host :=
  if rest.getLast? = some ']' then
    match Ipv6.parse? rest.dropLast with
    | some a => .ok (.ipv6 a)
    | none => .error .badIpv6
  else .error .badIpv6

/-- The host that an ASCII name stands for: an address if its last part is a number. -/
def ofAsciiName (name : List Char) : Except UrlFault Host :=
  if name.isEmpty then .error .emptyHost
  else if Ipv4.endsInNumber name then
    match Ipv4.parseLoose? name with
    | some a => .ok (.ipv4 a)
    | none => .error .badIpv4
  else .ok (.domain (String.ofList name))

/-- The host of a web URL. -/
def parse (cs : List Char) : Except UrlFault Host :=
  match cs with
  | '[' :: rest => parseBracketed rest
  | cs =>
    match Utf8.decodeChars (Percent.decode cs) with
    | .error _ => .error .internationalName
    | .ok decoded =>
      match Idna.toAscii decoded with
      | none => .error .internationalName
      | some name => ofAsciiName name

/-- Characters that cannot stand in any host. -/
def isForbidden (c : Char) : Bool := "\x00\t\n\r #/:<>?@[\\]^|".toList.contains c

/-- The host of a URL that is no web URL. -/
def parseOpaque (cs : List Char) : Except UrlFault Host :=
  match cs with
  | '[' :: rest => parseBracketed rest
  | cs =>
    if cs.any isForbidden then .error .hostCharacter
    else .ok (.domain (String.ofList (Percent.encode Percent.isControl cs)))

end Host

end IdentityClient
