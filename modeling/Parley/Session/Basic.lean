import Parley.Hub.Basic
import Parley.Session.Reader
import Parley.Session.Writer

/-!
# Sessions

A `Session` is a connection with its reader and its writer. It is created together with the
connection, which is registered at once. Whichever side ends first takes the connection off the
roster, and that raises the signal at which the other side ends. When both have ended, the session
is over and nobody holds the connection.
-/

namespace Parley

/-- A connection with its two sides and their exits. -/
structure Session where
  connection : ConnectionId
  user : UserId
  settings : Settings
  reader : Reader
  writer : Writer
  inbound : Option SessionExit := none
  outbound : Option SessionExit := none
  isOver : Bool := false

namespace Session

/-- Opens and registers a connection and starts both sides. -/
def start (hub : Hub) (user : UserId) (settings : Settings) (now : Duration) : Session × Hub :=
  let (connection, hub) := hub.openFor user settings.queueCapacity
  ({ connection, user, settings, reader := .start settings now, writer := .start settings now },
    hub.register connection)

/-- Whether the closed signal of the connection is raised. -/
def isSignalled (s : Session) (hub : Hub) : Bool :=
  (hub.connection? s.connection).any (·.isClosed)

/-- The reader acts on a reading. -/
def read (s : Session) (hub : Hub) (now : Duration) (reading : Reading) :
    Reaction × Session × Hub :=
  let (reaction, reader) := s.reader.react s.settings now reading
  let s := { s with reader }
  match reaction with
  | .stop exit => (reaction, { s with inbound := some exit }, hub.unregister s.connection)
  | _ => (reaction, s, hub)

/-- The answer to a post has come; one that failed inside is noted. -/
def answer (s : Session) (hub : Hub) (conversation : ConversationId)
    (result : Except PostError Unit) : Session × Hub :=
  let s := { s with reader := s.reader.answered }
  match result with
  | .error e@(.internal _) => (s, hub.note (.postFailed s.user conversation e))
  | _ => (s, hub)

/-- What an idle writer turns to, if there is anything. While it serves, that is the closed signal
first, then the mailbox, then a ping that is due. -/
def turn? (s : Session) (hub : Hub) (now : Duration) : Option (Writing × Hub) :=
  let mail := hub.dequeue s.connection
  match s.writer.stage with
  | .serving =>
    if s.isSignalled hub then some (.signal, hub)
    else
      match mail with
      | some (envelope, hub) => some (.dequeued envelope, hub)
      | none =>
        -- nothing queued and nobody left to queue: as long as the session runs it holds both ends
        -- of the mailbox, so this does not happen
        if hub.isDisconnected s.connection then some (.disconnected, hub)
        else if s.writer.pingDue ≤ now then some (.tick, hub)
        else none
  | .draining =>
    match mail with
    | some (envelope, hub) => some (.dequeued envelope, hub)
    | none => some (.emptied, hub)
  | .closing => none

/-- The writer acts on what happened. On the closed signal it closes the mailbox; when it ends, the
connection is closed for good. -/
def write (s : Session) (hub : Hub) (now : Duration) (writing : Writing) : Session × Hub :=
  let hub := match writing with
    | .signal => hub.update s.connection Connection.closeQueue
    | _ => hub
  let (exit, writer) := s.writer.react s.settings now writing
  let s := { s with writer }
  match exit with
  | none => (s, hub)
  | some exit =>
    ({ s with outbound := some exit },
      (hub.unregister s.connection).update s.connection fun c => c.markClosed.dropQueue)

/-- The writer failed without an exit. It counts as unregistered. -/
def crash (s : Session) (hub : Hub) (reason : String) : Session × Hub :=
  ({ s with outbound := some .unregistered },
    ((hub.note (.writerFailed s.connection reason)).unregister s.connection).update s.connection
      Connection.dropQueue)

/-- Ends the session once both sides have ended. -/
def finish (s : Session) (hub : Hub) : Session × Hub :=
  match s.isOver, s.inbound, s.outbound with
  | false, some inbound, some outbound =>
    ({ s with isOver := true },
      (hub.note (.sessionEnded s.connection s.user inbound outbound)).update s.connection
        Connection.release)
  | _, _, _ => (s, hub)

end Session

end Parley
