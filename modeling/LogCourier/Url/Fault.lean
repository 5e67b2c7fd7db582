/-!
# Faults of URLs
-/

namespace LogCourier.Url

inductive Fault where
  | emptyHost
  | internationalName
  | invalidPort
  | invalidIpv4Address
  | invalidIpv6Address
  | invalidDomainCharacter
  | relativeWithoutBase
  deriving DecidableEq, Repr

def Fault.message : Fault → String
  | emptyHost => "empty host"
  | internationalName => "invalid international domain name"
  | invalidPort => "invalid port number"
  | invalidIpv4Address => "invalid IPv4 address"
  | invalidIpv6Address => "invalid IPv6 address"
  | invalidDomainCharacter => "invalid domain character"
  | relativeWithoutBase => "relative URL without a base"

end LogCourier.Url
