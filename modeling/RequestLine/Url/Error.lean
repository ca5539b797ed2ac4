/-!
# Why a text is no address
-/

namespace RequestLine.Url

/-- Why a text is no absolute address. -/
inductive Error where
  /-- There is no scheme. -/
  | relative
  | emptyHost
  /-- A name has no form in ASCII. -/
  | badName
  | badPort
  | badIpv4
  | badIpv6
  /-- A host that is kept as it is holds a character that divides addresses. -/
  | badHostCharacter
  deriving DecidableEq, Repr

/-- The text of an error. -/
def Error.message : Error → String
  | .relative => "relative URL without a base"
  | .emptyHost => "empty host"
  | .badName => "invalid international domain name"
  | .badPort => "invalid port number"
  | .badIpv4 => "invalid IPv4 address"
  | .badIpv6 => "invalid IPv6 address"
  | .badHostCharacter => "invalid domain character"

end RequestLine.Url
