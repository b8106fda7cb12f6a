/-! # Faults in HTTP parts

Why a text is no request target, and why an exchange is not carried out.
-/

namespace WampClient.Http

inductive Fault where
  | invalidUriCharacter
  | invalidScheme
  | invalidAuthority
  | invalidPort
  | invalidFormat
  | schemeMissing
  | authorityMissing
  | pathAndQueryMissing
  | uriTooLong
  | emptyString
  | schemeTooLong
  deriving Repr, DecidableEq

def Fault.text : Fault → String
  | .invalidUriCharacter => "invalid uri character"
  | .invalidScheme => "invalid scheme"
  | .invalidAuthority => "invalid authority"
  | .invalidPort => "invalid port"
  | .invalidFormat => "invalid format"
  | .schemeMissing => "scheme missing"
  | .authorityMissing => "authority missing"
  | .pathAndQueryMissing => "path missing"
  | .uriTooLong => "uri too long"
  | .emptyString => "empty string"
  | .schemeTooLong => "scheme too long"

end WampClient.Http
