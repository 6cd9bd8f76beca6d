/-!
# Faults in URLs
-/

namespace BusRelay

/-- Why a text is no URL. -/
inductive UrlFault where
  /-- There is no scheme. -/
  | relative
  | emptyHost
  /-- A domain name that cannot be written in ASCII or holds a forbidden character. -/
  | invalidDomain
  | invalidPort
  | invalidIpv4
  | invalidIpv6
  /-- A forbidden character in a host that is not a domain name. -/
  | invalidHostCharacter
  deriving DecidableEq, Repr

def UrlFault.message : UrlFault → String
  | relative => "relative URL without a base"
  | emptyHost => "empty host"
  | invalidDomain => "invalid international domain name"
  | invalidPort => "invalid port number"
  | invalidIpv4 => "invalid IPv4 address"
  | invalidIpv6 => "invalid IPv6 address"
  | invalidHostCharacter => "invalid domain character"

end BusRelay
