import Parley.Backend
import Parley.Config
import Parley.Loopback.World
import Parley.Web.Routes

/-!
# The application

An `Application` is a configuration whose secret is given, with the tokens signed with it.
`Application.site` is what its routes are served with, and `World.request` answers a request among
running sessions: where the answer opens a WebSocket, a session starts on it.
-/

namespace Parley

/-- A configuration, and the tokens that it signs and accepts. -/
structure Application where
  config : Config
  tokens : AccessTokens

namespace Application

/-- The application of a configuration, which must have a secret. -/
def ofConfig (config : Config) : Except Failure Application :=
  config.requireSecret.map fun secret => { config, tokens := .ofSecret secret }

/-- What the routes are served with, and notices of the origins that are left out. -/
def site (app : Application) (now : Nat) : Web.Site × List Notice :=
  let (origins, notices) := Web.Origins.ofList app.config.allowedOrigins
  ({ origins, verify := Web.accessVerifier app.tokens now }, notices)

end Application

/-- What surrounds sessions on a backend; messages are created at a given time. -/
def Backend.surroundings (now : Timestamp) : Loopback.Surroundings Backend where
  hub b := b.hub
  setHub b hub := { b with hub }
  post conversation user content b :=
    let (result, b) := b.post now conversation user content
    (result.map fun _ => (), b)

/-- Answers a request, and starts the session that it opens. -/
def Loopback.World.request {σ : Type} (env : Surroundings σ) (w : World σ) (site : Web.Site)
    (settings : Settings) (request : Web.Request) : Web.Answer × World σ :=
  let hub := env.hub w.state
  let answer := site.answer hub request
  let w := { w with state := env.setHub w.state (answer.notices.foldl Hub.note hub) }
  match answer.session with
  | some user =>
    let decoder : WebSocket.Decoder := { limit := settings.maxMessageSize }
    (answer, w.connect env user settings { decoder := some decoder })
  | none => (answer, w)

end Parley
