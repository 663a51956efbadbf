/-! The ways in which a text fails to be a URL. -/

namespace AliasSync.Url

inductive ParseError where
  | emptyHost
  | invalidDomainName
  | invalidPort
  | invalidIPv4
  | invalidIPv6
  | invalidDomainCharacter
  | relativeWithoutBase
  | overflow
  deriving DecidableEq, Repr

def ParseError.message : ParseError → String
  | emptyHost => "empty host"
  | invalidDomainName => "invalid international domain name"
  | invalidPort => "invalid port number"
  | invalidIPv4 => "invalid IPv4 address"
  | invalidIPv6 => "invalid IPv6 address"
  | invalidDomainCharacter => "invalid domain character"
  | relativeWithoutBase => "relative URL without a base"
  | overflow => "URLs more than 4 GB are not supported"

end AliasSync.Url
