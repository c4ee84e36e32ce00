/-!
# Faults of URLs

Why a text is not an absolute URL.
-/

namespace BucketDriver.Url

/-- What is wrong with the text of a URL. -/
inductive Error where
  | noScheme
  | emptyHost
  | invalidPort
  | invalidIpv4
  | invalidIpv6
  | invalidInternationalDomain
  | invalidDomainCharacter
  deriving DecidableEq, Repr

/-- What is wrong, in words. -/
def Error.message : Error → String
  | noScheme => "relative URL without a base"
  | emptyHost => "empty host"
  | invalidPort => "invalid port number"
  | invalidIpv4 => "invalid IPv4 address"
  | invalidIpv6 => "invalid IPv6 address"
  | invalidInternationalDomain => "invalid international domain name"
  | invalidDomainCharacter => "invalid domain character"

end BucketDriver.Url
