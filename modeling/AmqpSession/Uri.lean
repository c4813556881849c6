/-
What a connection URI carries, and why a text is none. Components keep the characters that were
written; percent escapes are still in them.
-/

namespace AmqpSession

/-- The parts of a URI that options are read from. -/
structure Uri where
  /-- In lower case. -/
  scheme : String
  username : String
  password : Option String
  path : String
  query : Option String
deriving DecidableEq, Repr

/-- Why a text is not an absolute URI. -/
inductive UriFault where
  | noScheme
  | emptyHost
  | invalidPort
  | invalidIpv4
  | invalidIpv6
  | invalidDomainCharacter
  | invalidDomainName
deriving DecidableEq, Repr

/-- The wording of a text that is no URI. -/
def UriFault.message : UriFault → String
  | .noScheme => "relative URL without a base"
  | .emptyHost => "empty host"
  | .invalidPort => "invalid port number"
  | .invalidIpv4 => "invalid IPv4 address"
  | .invalidIpv6 => "invalid IPv6 address"
  | .invalidDomainCharacter => "invalid domain character"
  | .invalidDomainName => "invalid international domain name"

end AmqpSession
