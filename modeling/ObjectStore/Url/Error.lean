/-!
# Why a text is no base URL
-/

namespace ObjectStore

inductive UrlError where
  | relative
  | emptyHost
  | invalidDomain
  | invalidDomainCharacter
  | invalidIpv4
  | invalidIpv6
  | invalidPort
  | notHierarchical
  deriving DecidableEq, Repr

/-- The error in words. A URL without a hierarchical path is well formed, so
there is nothing to say about it. -/
def UrlError.message? : UrlError → Option String
  | .relative => some "relative URL without a base"
  | .emptyHost => some "empty host"
  | .invalidDomain => some "invalid international domain name"
  | .invalidDomainCharacter => some "invalid domain character"
  | .invalidIpv4 => some "invalid IPv4 address"
  | .invalidIpv6 => some "invalid IPv6 address"
  | .invalidPort => some "invalid port number"
  | .notHierarchical => none

end ObjectStore
