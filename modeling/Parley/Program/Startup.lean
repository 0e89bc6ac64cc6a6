import Parley.Application
import Parley.Chat.Seed
import Parley.Program.Invocation

/-!
# Starting the server

What the server does before it listens: it reads its configuration, loads the seed file if there is
one, and sets up the application. `Startup.run` gives the notices of all that, and the application
with its conversations unless one of the steps failed.
-/

namespace Parley

/-- How far the server got. -/
structure Startup where
  config : Config
  /-- What was worth noting, oldest first. -/
  log : List Notice
  /-- What is served, if nothing failed. -/
  served : Option (Application × Backend)

namespace Startup

/-- The conversations to begin with, and the notice of how they were come by; only a notice if they
cannot be had. -/
def conversations (i : Invocation) (config : Config) : Except Notice (Notice × Directory) :=
  match config.seedFile with
  | none => .ok (.noSeedFile, .empty)
  | some path =>
    match Seed.load (i.file path) .empty with
    | (.error failure, _) => .error (.seedFailed path failure)
    | (.ok count, directory) => .ok (.seeded count path, directory)

/-- Starts the server of a configuration. -/
def ofConfig (i : Invocation) (config : Config) : Startup :=
  let first := Notice.starting config.stage.text
  match conversations i config with
  | .error notice => { config, log := [first, notice], served := none }
  | .ok (notice, directory) =>
    match Application.ofConfig config with
    | .error failure => { config, log := [first, notice, .setupFailed failure], served := none }
    | .ok app =>
      { config, log := [first, notice], served := some (app, { Backend.empty with directory }) }

/-- Starts the server. -/
def run (i : Invocation) : Except UsageError Startup :=
  (Config.read i.value? i.arguments).map (ofConfig i)

/-- The server could not listen. -/
def failToListen (s : Startup) (reason : String) : Startup :=
  { s with log := s.log ++ [.serverFailed reason], served := none }

/-- The lines of the log that the configuration lets through, and whether each is an error. -/
def lines (s : Startup) : List (Bool × String) :=
  (s.log.filter fun n => s.config.logFilter.admits n.level).map fun n =>
    (n.level = .error, "[" ++ n.level.text ++ "] " ++ n.text fun _ => "")

end Startup

end Parley
