import Parley.Hub.Basic
import Parley.Web.Authentication
import Parley.Web.Handshake
import Parley.Web.Origins

/-!
# Routes

`/health` reports how many connections and users there are, and `/ws` becomes a WebSocket in the
name of an authenticated user. `Site.answer` answers a request, says for which user a session is to
be started if there is one, and gives the notices that came up.

Every `OPTIONS` request is answered with what browsers may ask for, whatever the path. A path
without a route is not found, and a route takes `GET` and `HEAD`; the answer to `HEAD` is the one to
`GET` without its body.
-/

namespace Parley.Web

/-- A path that is served. -/
inductive Route where
  | health
  | socket
  deriving DecidableEq, Repr

/-- The route of a path. -/
def Route.ofPath? (path : String) : Option Route :=
  if path = "/health" then some .health
  else if path = "/ws" then some .socket
  else none

/-- What the routes are served with. -/
structure Site where
  origins : Origins
  verify : Verifier
  /-- Whether a transport can be taken over for a WebSocket. -/
  upgradable : Bool := true

/-- The answer to a request: the response, the user whose session starts with it, and what is worth
noting. -/
structure Answer where
  response : Response
  session : Option UserId := none
  notices : List Notice := []

namespace Site

/-- How many connections and users a hub has. -/
def healthReport (hub : Hub) : Response :=
  .json .ok <| .object
    [("connections", .integer hub.connectionCount), ("status", .text "healthy"),
     ("users", .integer hub.userCount)]

/-- Opens a WebSocket for the user of a request. -/
def openSocket (site : Site) (request : Request) : Answer :=
  match request.authenticate site.verify with
  | .error rejection =>
    { response := failureResponse rejection.failure, notices := rejection.notices }
  | .ok user =>
    match Handshake.check request site.upgradable with
    | .error fault => { response := .plain fault.status fault.text }
    | .ok key => { response := Handshake.accepted key, session := some user }

/-- The answer of a route to a request that is a `GET` or a `HEAD`. -/
def serve (site : Site) (hub : Hub) (request : Request) : Route → Answer
  | .health => { response := healthReport hub }
  | .socket => site.openSocket request

/-- The headers of an answer without a body that names the methods of a route. -/
def allowHeaders : List (String × String) :=
  [("allow", "GET,HEAD"), ("content-length", "0")]

/-- The answer to a request before the headers for other sites are added. -/
def dispatch (site : Site) (hub : Hub) (request : Request) : Answer :=
  match Route.ofPath? request.path, request.method with
  | none, .options => { response := { status := .ok, headers := Origins.permissions } }
  | some _, .options =>
    { response := { status := .ok, headers := Origins.permissions ++ allowHeaders } }
  | none, _ => { response := { status := .notFound } }
  | some route, .get => site.serve hub request route
  | some route, .head =>
    let answer := site.serve hub request route
    { answer with response := answer.response.withoutBody }
  | some _, .other => { response := { status := .methodNotAllowed, headers := allowHeaders } }

/-- The answer to a request. -/
def answer (site : Site) (hub : Hub) (request : Request) : Answer :=
  let answer := site.dispatch hub request
  { answer with response := answer.response.withHeaders (site.origins.headers request) }

end Site

end Parley.Web
