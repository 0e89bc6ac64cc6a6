import Parley.Failure
import Parley.Hub.Answer
import Parley.Hub.Connection
import Parley.Session.Exit

/-!
# Notices

What is worth a line of the log. A notice has a level and a text; a connection appears in the text
under whatever name the one who prints it gives it.
-/

namespace Parley

/-- How grave a notice is. -/
inductive Level where
  | trace
  | debug
  | info
  | warn
  | error
  deriving DecidableEq, Repr

/-- The name of a level. -/
def Level.text : Level → String
  | .trace => "TRACE"
  | .debug => "DEBUG"
  | .info => "INFO"
  | .warn => "WARN"
  | .error => "ERROR"

/-- What is worth a line of the log. -/
inductive Notice where
  | registered (connection : ConnectionId) (user : UserId)
  | unregistered (connection : ConnectionId) (user : UserId) (dropped : Nat)
  | broadcastDropped (error : LookupError)
  | queueFull (connection : ConnectionId) (user : UserId)
  | postFailed (user : UserId) (conversation : ConversationId) (error : PostError)
  | writerFailed (connection : ConnectionId) (reason : String)
  | sessionEnded (connection : ConnectionId) (user : UserId) (inbound outbound : SessionExit)
  | malformedUser
  | invalidOrigin (origin : String)
  /-- The server starts in a stage. -/
  | starting (stage : String)
  | noSeedFile
  | seeded (count : Nat) (path : String)
  | seedFailed (path : String) (failure : Failure)
  | setupFailed (failure : Failure)
  /-- The server cannot listen, or stopped listening. -/
  | serverFailed (reason : String)
  deriving DecidableEq, Repr

namespace Notice

/-- Whether a session that ended this way needs attention. Once the peer has closed, the socket
refuses the closing frame, and that is no fault. -/
def isAbnormalEnd (inbound outbound : SessionExit) : Bool :=
  inbound.isFailure || (outbound.isFailure && inbound ≠ .closedByPeer)

/-- The level of a notice. -/
def level : Notice → Level
  | .registered .. | .unregistered .. | .starting .. | .seeded .. => .info
  | .sessionEnded _ _ inbound outbound => if isAbnormalEnd inbound outbound then .warn else .info
  | .writerFailed .. | .seedFailed .. | .setupFailed .. | .serverFailed .. => .error
  | .broadcastDropped .. | .queueFull .. | .postFailed .. | .malformedUser | .invalidOrigin ..
  | .noSeedFile => .warn

/-- The text of a notice. -/
def text (name : ConnectionId → String) : Notice → String
  | .registered c user => "Registered connection " ++ name c ++ " for user " ++ user.text
  | .unregistered c user dropped =>
    "Unregistered connection " ++ name c ++ " for user " ++ user.text ++ " ("
      ++ String.ofList (Decimal.digits dropped) ++ " deliveries dropped)"
  | .broadcastDropped error => "Dropping broadcast: " ++ error.text
  | .queueFull c user =>
    "Outbound queue full for connection " ++ name c ++ " of user " ++ user.text
      ++ ", dropping message"
  | .postFailed user conversation error =>
    "Message from user " ++ user.text ++ " to conversation " ++ conversation.text ++ " failed: "
      ++ error.text
  | .writerFailed c reason =>
    "Outbound pump for connection " ++ name c ++ " panicked: " ++ reason
  | .sessionEnded c user inbound outbound =>
    "Connection " ++ name c ++ " for user " ++ user.text ++ " ended (inbound: " ++ inbound.text
      ++ ", outbound: " ++ outbound.text ++ ")"
  | .malformedUser => "Token carries a malformed user id"
  | .invalidOrigin origin =>
    "Ignoring invalid CORS origin " ++ Quoted.quote origin ++ ": failed to parse header value"
  | .starting stage => "Starting up chat hub in " ++ stage ++ " mode..."
  | .noSeedFile => "No seed file configured; no conversations exist until one is loaded"
  | .seeded count path =>
    "Loaded " ++ String.ofList (Decimal.digits count) ++ " conversations from " ++ path
  | .seedFailed path failure => "Failed to load seed file " ++ path ++ ": " ++ failure.message
  | .setupFailed failure => "Failed to build application state: " ++ failure.message
  | .serverFailed reason => "Server exited with error: " ++ reason

/-- A notice as a line: its level and its text. -/
def line (name : ConnectionId → String) (n : Notice) : String :=
  n.level.text ++ " " ++ n.text name

end Notice

end Parley
