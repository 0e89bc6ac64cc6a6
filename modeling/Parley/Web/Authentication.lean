import Parley.Notice
import Parley.Token.Access
import Parley.Web.Exchange
import Parley.Web.Form

/-!
# Authentication

A request is made in the name of the user whose token it carries: the one in its query, or else the
one that its authorization header bears. `Request.authenticate` asks a `Verifier` about that token
and about no other. `Rejection.response` is what a request is answered whose token is not accepted;
it does not tell why.
-/

namespace Parley.Web

/-- Why a token is not accepted, and what is worth noting about it. -/
structure Rejection where
  failure : Failure
  notices : List Notice := []

/-- Tells whose token a text is. -/
abbrev Verifier := String → Except Rejection UserId

/-- The rejection of a refused token. -/
def Rejection.ofRefusal (refusal : Refusal) : Rejection where
  failure := refusal.toFailure
  notices := if refusal = .malformedUser then [.malformedUser] else []

/-- The verifier of the access tokens signed with a key. -/
def accessVerifier (tokens : AccessTokens) (now : Nat) : Verifier := fun token =>
  (tokens.verify now token).mapError .ofRefusal

namespace Request

/-- The token in the query: the value of the one field named `token`. -/
def queryToken? (r : Request) : Option String :=
  (Form.only? (Form.fields r.query) "token").filter (· ≠ "")

/-- The text of a header value that is visible ASCII, blanks and tabs. -/
def visible? (value : List UInt8) : Option (List Char) :=
  if value.all fun b => (32 ≤ b.toNat && b.toNat < 127) || b.toNat = 9 then
    some (value.map fun b => Char.ofNat b.toNat)
  else none

/-- What follows the word `Bearer` and a blank. -/
def afterBearer? : List Char → Option (List Char)
  | 'B' :: 'e' :: 'a' :: 'r' :: 'e' :: 'r' :: ' ' :: token => some token
  | _ => none

/-- The token that the authorization header bears. -/
def bearerToken? (r : Request) : Option String := do
  let value ← r.header? "authorization"
  let token ← afterBearer? (← visible? value)
  if token = [] then none else some (String.ofList token)

/-- The token of a request. -/
def token? (r : Request) : Option String :=
  r.queryToken?.or r.bearerToken?

/-- The user in whose name a request is made. -/
def authenticate (r : Request) (verify : Verifier) : Except Rejection UserId :=
  match r.token? with
  | some token => verify token
  | none => .error { failure := .auth .missingToken }

end Request

/-- The answer that says no more than a text. -/
def refusal (status : Status) (text : String) : Response :=
  .json status (.object [("error", .text text)])

/-- The answer to a request that fails. -/
def failureResponse (f : Failure) : Response :=
  match f.cause with
  | .auth .missingToken => refusal .unauthorized "missing token"
  | .auth _ => refusal .unauthorized "invalid token"
  | .entity .notFound => refusal .notFound "not found"
  | .entity .invalid => refusal .unprocessable "unprocessable entity"
  | .entity .notParticipant => refusal .forbidden "forbidden"
  | .entity (.other _) | .config | .other _ => refusal .internalError "internal server error"

end Parley.Web
