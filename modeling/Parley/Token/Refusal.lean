import Parley.Failure

/-!
# Refused tokens

`TokenFault` is what can be wrong with a signed token as such; `Refusal` adds what can be wrong
with an access token that is signed and in force. `Refusal.toFailure` is the failure each is
reported as.
-/

namespace Parley

/-- What can be wrong with a signed token. Each fault has its text and is reported as a failure. -/
inductive TokenFault where
  /-- The token has not got three parts. -/
  | parts
  /-- A part is not base64url. -/
  | base64
  /-- The header or the claims are not what they should be. -/
  | json
  | algorithm
  | signature
  | expired
  /-- The claims are not in force yet. No access token is found to be so, since nothing is asked
  about when its claims come into force, but the fault can be reported. -/
  | immature
  | audience
  deriving DecidableEq, Repr

/-- The text of a fault. -/
def TokenFault.text : TokenFault → String
  | .parts => "InvalidToken"
  | .base64 => "Base64 error"
  | .json => "JSON error"
  | .algorithm => "InvalidAlgorithm"
  | .signature => "InvalidSignature"
  | .expired => "ExpiredSignature"
  | .immature => "ImmatureSignature"
  | .audience => "InvalidAudience"

/-- The failure a fault is reported as. Only an expired token is told apart. -/
def TokenFault.toFailure (fault : TokenFault) : Failure :=
  ⟨.auth (if fault = .expired then .expired else .invalidToken), some fault.text⟩

/-- Why a token gives no access. -/
inductive Refusal where
  /-- The token as such is faulty. -/
  | faulty (fault : TokenFault)
  /-- The token is not meant for access. -/
  | wrongType
  /-- The token names a user whose id is no id. -/
  | malformedUser
  deriving DecidableEq, Repr

/-- The failure a refusal is reported as. -/
def Refusal.toFailure : Refusal → Failure
  | .faulty fault => fault.toFailure
  | .wrongType => .auth .wrongTokenType
  | .malformedUser => .auth .invalidToken

end Parley
