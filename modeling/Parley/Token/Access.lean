import Parley.Digest.Sha256
import Parley.Text.Base64
import Parley.Token.Claims
import Parley.Token.Header
import Parley.Token.Refusal
import Parley.Uuid

/-!
# Access tokens

A token is three base64url parts joined by dots: a header, claims, and the keyed digest of the two
before it. `AccessTokens.issue` makes a token for a user and `AccessTokens.verify` says whose token
a text is. Nothing of the claims is looked at before the signature has matched.
-/

namespace Parley

/-- The key that tokens are signed with. -/
structure AccessTokens where
  key : List UInt8

/-- The parts of a token as written. -/
structure TokenParts where
  header : List Char
  claims : List Char
  signature : List Char

namespace TokenParts

/-- Splits a text at its last dot. -/
def splitLast? (text : List Char) : Option (List Char × List Char) :=
  let reversed := text.reverse
  match reversed.dropWhile (· ≠ '.') with
  | _ :: before => some (before.reverse, (reversed.takeWhile (· ≠ '.')).reverse)
  | [] => none

/-- Splits a token at its last two dots. -/
def ofChars? (token : List Char) : Option TokenParts := do
  let (message, signature) ← splitLast? token
  let (header, claims) ← splitLast? message
  pure { header, claims, signature }

/-- What is signed: the header and the claims with a dot between them. -/
def message (p : TokenParts) : List Char :=
  p.header ++ '.' :: p.claims

/-- The token of its parts. -/
def toChars (p : TokenParts) : List Char :=
  p.message ++ '.' :: p.signature

end TokenParts

namespace AccessTokens

/-- The tokens signed with the bytes of a secret text. -/
def ofSecret (secret : String) : AccessTokens :=
  ⟨Utf8.encode secret.toList⟩

/-- The digest that a message is signed with. -/
def sign (tokens : AccessTokens) (message : List Char) : List UInt8 :=
  Hmac.sign tokens.key (Utf8.encode message)

/-- The base64url form of a JSON value. -/
def encodeJson (value : Json) : List Char :=
  Base64.urlEncode (Utf8.encode value.render)

/-- The token of given claims. -/
def issueClaims (tokens : AccessTokens) (claims : Claims) : TokenParts :=
  let header := encodeJson TokenHeader.issued
  let claims := encodeJson claims.toJson
  { header, claims, signature := Base64.urlEncode (tokens.sign (header ++ '.' :: claims)) }

/-- A token that gives a user access from `now` on for `ttl` seconds. -/
def issue (tokens : AccessTokens) (now ttl : Nat) (user : UserId) : String :=
  String.ofList <| TokenParts.toChars <| tokens.issueClaims
    { user := user.text, type := .access, issuedAt := now, expires := now + ttl }

/-- A value, or the given fault where there is none. -/
def orFault {α : Type} (fault : TokenFault) (value : Option α) : Except TokenFault α :=
  value.elim (.error fault) .ok

/-- The header of a token. -/
def readHeader (text : List Char) : Except TokenFault TokenHeader := do
  let bytes ← orFault .base64 (Base64.urlDecode? text)
  orFault .json ((Node.ofBytes? bytes).bind TokenHeader.ofNode?)

/-- The claims of a token. -/
def readClaims (text : List Char) : Except TokenFault Claims := do
  let bytes ← orFault .base64 (Base64.urlDecode? text)
  orFault .json ((Node.ofBytes? bytes).bind Claims.ofNode?)

/-- The claims of a token that is signed with the key and in force. -/
def open? (tokens : AccessTokens) (now : Nat) (token : String) : Except TokenFault Claims := do
  let parts ← orFault .parts (TokenParts.ofChars? token.toList)
  let header ← readHeader parts.header
  if header.algorithm ≠ .hs256 then throw .algorithm
  let signature ← orFault .base64 (Base64.urlDecode? parts.signature)
  if signature ≠ tokens.sign parts.message then throw .signature
  let claims ← readClaims parts.claims
  if claims.expires < now then throw .expired
  if claims.hasAudience then throw .audience
  pure claims

/-- The user whose access token a text is. -/
def verify (tokens : AccessTokens) (now : Nat) (token : String) : Except Refusal UserId :=
  match tokens.open? now token with
  | .error fault => .error (.faulty fault)
  | .ok claims =>
    if claims.type ≠ .access then .error .wrongType
    else (Uuid.parse? claims.user).elim (.error .malformedUser) .ok

end AccessTokens

end Parley
