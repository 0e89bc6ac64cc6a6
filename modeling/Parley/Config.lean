import Parley.Failure
import Parley.Notice
import Parley.Options.CommandLine
import Parley.Session.Settings

/-!
# Configuration

`Config.specs` declares the options of the server, and `Config.read` is the configuration that
arguments and environment give. `Config.settings?` are the settings of its sessions; there are none
where nine times the pong wait does not fit 64 bits of seconds.
-/

namespace Parley

/-- Where the server runs. -/
inductive Stage where
  | development
  | production
  | staging
  deriving DecidableEq, Repr

namespace Stage

/-- The name of a stage. -/
def text : Stage → String
  | .development => "development"
  | .production => "production"
  | .staging => "staging"

/-- All stages. -/
def all : List Stage := [.development, .production, .staging]

/-- The stage of a name in any case. -/
def parse? (name : String) : Option Stage :=
  all.find? (·.text = name.map Char.toLower)

/-- The names accepted on the command line: all upper case or all lower case. -/
def names : List (String × Stage) :=
  all.map (fun s => (s.text.map Char.toUpper, s)) ++ all.map fun s => (s.text, s)

end Stage

/-- The gravest notices that are left out: all of them, or those below a level. -/
inductive LevelFilter where
  | off
  | upTo (level : Level)
  deriving DecidableEq, Repr

namespace LevelFilter

/-- The name of a filter. -/
def text : LevelFilter → String
  | .off => "OFF"
  | .upTo level => level.text

/-- The names accepted on the command line. -/
def names : List (String × LevelFilter) :=
  ([.off, .upTo .error, .upTo .warn, .upTo .info, .upTo .debug, .upTo .trace]
    : List LevelFilter).map fun f => (f.text, f)

end LevelFilter

/-- How grave a level is. -/
def Level.gravity : Level → Nat
  | .trace => 0
  | .debug => 1
  | .info => 2
  | .warn => 3
  | .error => 4

/-- Whether a filter lets a level through. -/
def LevelFilter.admits : LevelFilter → Level → Bool
  | .off, _ => false
  | .upTo least, level => least.gravity ≤ level.gravity

/-- The configuration of the server. -/
structure Config where
  allowedOrigins : List String := ["http://localhost:3000"]
  secret : Option String := none
  /-- How many seconds an access token is in force. -/
  tokenLifetimeSecs : Nat := 900
  queueCapacity : Nat := 256
  writeWaitSecs : Nat := 10
  pongWaitSecs : Nat := 60
  maxMessageSize : Nat := 65536
  rateLimitCount : Nat := 60
  rateLimitWindowSecs : Nat := 60
  seedFile : Option String := none
  interface : String := "127.0.0.1"
  port : Nat := 4000
  logFilter : LevelFilter := .upTo .info
  stage : Stage := .development
  deriving DecidableEq, Repr

namespace Config

/-- The options of the server in the order of their declaration. -/
def specs : List OptionSpec :=
  [{ long := "allowed-origins", envName := some "ALLOWED_ORIGINS", many := true,
     check := ValueReader.text.check },
   { long := "jwt-secret", envName := some "JWT_SECRET", check := ValueReader.text.check },
   { long := "jwt-access-expiry-secs", envName := some "JWT_ACCESS_EXPIRY_SECS",
     check := (ValueReader.count 0).check },
   { long := "ws-outbound-queue-capacity", envName := some "WS_OUTBOUND_QUEUE_CAPACITY",
     check := (ValueReader.count 0).check },
   { long := "ws-write-wait-secs", envName := some "WS_WRITE_WAIT_SECS",
     check := (ValueReader.count 1).check },
   { long := "ws-pong-wait-secs", envName := some "WS_PONG_WAIT_SECS",
     check := (ValueReader.count 1).check },
   { long := "ws-max-message-size", envName := some "WS_MAX_MESSAGE_SIZE",
     check := (ValueReader.count 0).check },
   { long := "ws-rate-limit-count", envName := some "WS_RATE_LIMIT_COUNT",
     check := (ValueReader.count 0).check },
   { long := "ws-rate-limit-window-secs", envName := some "WS_RATE_LIMIT_WINDOW_SECS",
     check := (ValueReader.count 1).check },
   { long := "seed-file", envName := some "SEED_FILE", check := ValueReader.path.check },
   { long := "interface", short := some 'i', envName := some "INTERFACE",
     check := ValueReader.text.check },
   { long := "port", short := some 'p', envName := some "PORT", check := ValueReader.port.check },
   { long := "log-level-filter", short := some 'l', envName := some "LOG_LEVEL_FILTER",
     check := (ValueReader.oneOf LevelFilter.names).check },
   { long := "runtime-env", short := some 'r', envName := some "RUNTIME_ENV",
     check := (ValueReader.oneOf Stage.names).check }]

/-- The configuration of what is given, with defaults for the rest. -/
def ofGiven (given : Given) : Config :=
  let d : Config := {}
  { allowedOrigins := (given.lookup "allowed-origins").getD d.allowedOrigins
    secret := given.value? "jwt-secret" .text
    tokenLifetimeSecs := given.value "jwt-access-expiry-secs" (.count 0) d.tokenLifetimeSecs
    queueCapacity := given.value "ws-outbound-queue-capacity" (.count 0) d.queueCapacity
    writeWaitSecs := given.value "ws-write-wait-secs" (.count 1) d.writeWaitSecs
    pongWaitSecs := given.value "ws-pong-wait-secs" (.count 1) d.pongWaitSecs
    maxMessageSize := given.value "ws-max-message-size" (.count 0) d.maxMessageSize
    rateLimitCount := given.value "ws-rate-limit-count" (.count 0) d.rateLimitCount
    rateLimitWindowSecs :=
      given.value "ws-rate-limit-window-secs" (.count 1) d.rateLimitWindowSecs
    seedFile := given.value? "seed-file" .path
    interface := given.value "interface" .text d.interface
    port := given.value "port" .port d.port
    logFilter := given.value "log-level-filter" (.oneOf LevelFilter.names) d.logFilter
    stage := given.value "runtime-env" (.oneOf Stage.names) d.stage }

/-- The configuration that arguments and environment give. -/
def read (environment : String → Option String) (arguments : List String) :
    Except UsageError Config :=
  (CommandLine.read specs environment arguments).map ofGiven

/-- The configuration with a given secret. -/
def withSecret (c : Config) (secret : String) : Config :=
  { c with secret := some secret }

/-- How long a single write may take. -/
def writeWait (c : Config) : Duration := .seconds c.writeWaitSecs

/-- How long a peer has to answer a ping. -/
def pongWait (c : Config) : Duration := .seconds c.pongWaitSecs

/-- The time between pings. -/
def pingPeriod? (c : Config) : Option Duration := Settings.pingPeriodFor c.pongWait

/-- The length of the window in which posts are counted. -/
def rateLimitWindow (c : Config) : Duration := .seconds c.rateLimitWindowSecs

/-- The settings of the sessions. -/
def settings? (c : Config) : Option Settings :=
  c.pingPeriod?.map fun pingPeriod =>
    { queueCapacity := c.queueCapacity, writeWait := c.writeWait, pongWait := c.pongWait,
      pingPeriod, maxMessageSize := c.maxMessageSize, rateLimitCount := c.rateLimitCount,
      rateLimitWindow := c.rateLimitWindow }

/-- The text that says that there is no secret. -/
def missingSecret : String := "JWT_SECRET is not set"

/-- The secret that tokens are signed with, which must be given. -/
def requireSecret (c : Config) : Except Failure String :=
  c.secret.elim (.error (.config missingSecret)) .ok

end Config

end Parley
