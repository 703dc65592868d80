import PageCheck.Text.Basic

/-!
# Failures to read a URL

The causes that make a text no URL, with their wording.
-/

namespace PageCheck
namespace Url

/-- Why a text is no URL. -/
inductive Error
  | emptyHost
  | invalidDomain
  | invalidPort
  | invalidIpv4
  | invalidIpv6
  | invalidHostCharacter
  | missingScheme
deriving DecidableEq, Repr

/-- The wording of a failure. -/
def Error.message : Error → Text
  | .emptyHost => "empty host"
  | .invalidDomain => "invalid international domain name"
  | .invalidPort => "invalid port number"
  | .invalidIpv4 => "invalid IPv4 address"
  | .invalidIpv6 => "invalid IPv6 address"
  | .invalidHostCharacter => "invalid domain character"
  | .missingScheme => "relative URL without a base"

end Url
end PageCheck
