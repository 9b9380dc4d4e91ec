/-! Why a text is not the address of a service. -/
namespace Haulage.Url

inductive Error where
  | relativeWithoutBase
  | emptyHost
  | internationalName
  | domainCharacter
  | ipv4Address
  | ipv6Address
  | portNumber
  deriving DecidableEq

def Error.message : Error → String
  | .relativeWithoutBase => "relative URL without a base"
  | .emptyHost => "empty host"
  | .internationalName => "invalid international domain name"
  | .domainCharacter => "invalid domain character"
  | .ipv4Address => "invalid IPv4 address"
  | .ipv6Address => "invalid IPv6 address"
  | .portNumber => "invalid port number"

end Haulage.Url
