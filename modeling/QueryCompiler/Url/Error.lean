/-!
# URL errors

The reasons a URL reference cannot be resolved. Only the authority can make resolution fail:
its host (empty, an unreadable address, a domain name that does not map to ASCII, a forbidden
character in an opaque host) and its port.
-/

namespace QueryCompiler

namespace Url

/-- Why a URL reference does not resolve. -/
inductive UrlError where
  | emptyHost
  | idna
  | invalidPort
  | invalidIpv4
  | invalidIpv6
  | invalidDomainCharacter
  deriving DecidableEq, Repr

/-- The wording of each reason. -/
def UrlError.message : UrlError → String
  | .emptyHost => "empty host"
  | .idna => "invalid international domain name"
  | .invalidPort => "invalid port number"
  | .invalidIpv4 => "invalid IPv4 address"
  | .invalidIpv6 => "invalid IPv6 address"
  | .invalidDomainCharacter => "invalid domain character"

end Url

end QueryCompiler
