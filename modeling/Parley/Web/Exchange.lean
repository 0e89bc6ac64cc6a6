import Parley.Json.Value
import Parley.Text.Utf8

/-!
# Requests and responses

A `Request` has a method, a target, and headers in the order received; the name of a header is
compared without regard to case. `Request.path` and `Request.query` are the two parts of the target
that the routes look at. A `Response` has a status, headers and a body.
-/

namespace Parley.Web

/-- The method of a request, as far as it makes a difference. -/
inductive Method where
  | get
  | head
  | options
  | other
  deriving DecidableEq, Repr

/-- The method of a name; names are in upper case. -/
def Method.ofName (name : String) : Method :=
  if name = "GET" then .get
  else if name = "HEAD" then .head
  else if name = "OPTIONS" then .options
  else .other

/-- A request. -/
structure Request where
  method : Method := .get
  target : String
  headers : List (String × List UInt8) := []

/-- A status. -/
inductive Status where
  | switchingProtocols
  | ok
  | badRequest
  | unauthorized
  | forbidden
  | notFound
  | methodNotAllowed
  | unprocessable
  | upgradeRequired
  | internalError
  deriving DecidableEq, Repr

/-- The number of a status. -/
def Status.code : Status → Nat
  | .switchingProtocols => 101
  | .ok => 200
  | .badRequest => 400
  | .unauthorized => 401
  | .forbidden => 403
  | .notFound => 404
  | .methodNotAllowed => 405
  | .unprocessable => 422
  | .upgradeRequired => 426
  | .internalError => 500

/-- A response. -/
structure Response where
  status : Status
  headers : List (String × String) := []
  body : String := ""
  deriving DecidableEq, Repr

namespace Request

/-- The target without the scheme and the authority that may stand before the path, and without a
fragment. -/
def resource (r : Request) : List Char :=
  let target := r.target.toList.takeWhile (· ≠ '#')
  match target with
  | '/' :: _ => target
  | _ =>
    match (target.dropWhile (· ≠ ':')) with
    | ':' :: '/' :: '/' :: rest =>
      match rest.dropWhile fun c => c ≠ '/' ∧ c ≠ '?' with
      | '/' :: path => '/' :: path
      | rest => '/' :: rest
    | _ => target

/-- The path of the target. -/
def path (r : Request) : String :=
  String.ofList (r.resource.takeWhile (· ≠ '?'))

/-- The bytes of the query, none if there is no query. -/
def query (r : Request) : List UInt8 :=
  Utf8.encode ((r.resource.dropWhile (· ≠ '?')).drop 1)

/-- The first header of a name, which is given in lower case. -/
def header? (r : Request) (name : String) : Option (List UInt8) :=
  (r.headers.find? fun (n, _) => n.map Char.toLower = name).map (·.2)

end Request

namespace Response

/-- Adds headers. -/
def withHeaders (r : Response) (headers : List (String × String)) : Response :=
  { r with headers := r.headers ++ headers }

/-- The length of the body as a header. -/
def lengthHeader (body : String) : String × String :=
  ("content-length", String.ofList (Decimal.digits body.utf8ByteSize))

/-- A response with a JSON body. -/
def json (status : Status) (value : Json) : Response :=
  let body := value.compact
  { status, headers := [("content-type", "application/json"), lengthHeader body], body }

/-- A response with a line of plain text. -/
def plain (status : Status) (body : String) : Response :=
  { status, headers := [("content-type", "text/plain; charset=utf-8"), lengthHeader body], body }

/-- The response without its body, of which the headers still tell. -/
def withoutBody (r : Response) : Response :=
  { r with body := "" }

end Response

end Parley.Web
