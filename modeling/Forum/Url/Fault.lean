/-!
# Faults of URLs
-/

namespace Forum.Url

/-- Why a text is no URL. -/
inductive Fault where
  | noScheme
  | emptyHost
  /-- The host of a scheme of the web is no domain name. -/
  | badDomain
  /-- The host of another scheme has a character that no host has. -/
  | badCharacter
  /-- The host is a number, or ends in one, and is no address of version 4. -/
  | badAddress4
  /-- The host is in brackets and is no address of version 6. -/
  | badAddress6
  | badPort
deriving DecidableEq, Repr

def Fault.message : Fault → String
  | .noScheme => "relative URL without a base"
  | .emptyHost => "empty host"
  | .badDomain => "invalid international domain name"
  | .badCharacter => "invalid domain character"
  | .badAddress4 => "invalid IPv4 address"
  | .badAddress6 => "invalid IPv6 address"
  | .badPort => "invalid port number"

end Forum.Url
