import Parley.Hub.Roster
import Parley.Notice

/-!
# The hub

The `Hub` keeps all connections ever opened, the roster of those registered, and its log.
Registering a closed connection does nothing; taking a connection off the roster also raises its
closed signal. `Hub.fanOut` offers an envelope once to every live registered connection of every
listed user, and `Hub.broadcast` does so for the participants of a conversation.
-/

namespace Parley

/-- Connections, the roster, and what is worth noting, newest first. -/
structure Hub where
  connections : List Connection
  roster : Roster
  log : List Notice

/-- What became of an envelope: to how many connections it was offered, how many took it and how
many did not. -/
structure Delivery where
  recipients : Nat := 0
  delivered : Nat := 0
  dropped : Nat := 0
  deriving DecidableEq, Repr

namespace Hub

/-- The hub without connections. -/
def empty : Hub := ⟨[], .empty, []⟩

/-- The connection of an id. -/
def connection? (hub : Hub) (id : ConnectionId) : Option Connection :=
  hub.connections[id]?

/-- Changes the connection of an id. -/
def update (hub : Hub) (id : ConnectionId) (f : Connection → Connection) : Hub :=
  { hub with connections := hub.connections.modify id f }

/-- Adds a notice to the log. -/
def note (hub : Hub) (notice : Notice) : Hub :=
  { hub with log := notice :: hub.log }

/-- The notices since the log was last taken, newest first. -/
def takeLog (hub : Hub) : List Notice × Hub :=
  (hub.log, { hub with log := [] })

/-- Creates a connection of a user. -/
def openFor (hub : Hub) (user : UserId) (capacity : Nat) : ConnectionId × Hub :=
  (hub.connections.length, { hub with connections := hub.connections ++ [.new user capacity] })

/-! ### The roster -/

/-- Puts a connection on the roster whatever its phase, and says whether it is new there. -/
def enroll (hub : Hub) (id : ConnectionId) : Bool × Hub :=
  match hub.connection? id with
  | none => (false, hub)
  | some c =>
    let (isNew, roster) := hub.roster.insert c.user id
    (isNew, { hub with roster })

/-- Takes a connection off the roster, and says whether it was there. -/
def strike (hub : Hub) (id : ConnectionId) : Bool × Hub :=
  match hub.connection? id with
  | none => (false, hub)
  | some c =>
    let (wasThere, roster) := hub.roster.remove c.user id
    (wasThere, { hub with roster })

/-- Whether a connection is on the roster. -/
def isRegistered (hub : Hub) (id : ConnectionId) : Bool :=
  (hub.connection? id).any fun c => hub.roster.contains c.user id

/-- Puts a connection on the roster unless it is closed. -/
def register (hub : Hub) (id : ConnectionId) : Hub :=
  match hub.connection? id with
  | none => hub
  | some c =>
    if c.isClosed then hub
    else
      let (isNew, hub) := hub.enroll id
      if isNew then hub.note (.registered id c.user) else hub

/-- Takes a connection off the roster and raises its closed signal. -/
def unregister (hub : Hub) (id : ConnectionId) : Hub :=
  match hub.connection? id with
  | none => hub
  | some c =>
    let (wasThere, hub) := hub.strike id
    let hub := hub.update id Connection.close
    if wasThere then hub.note (.unregistered id c.user c.dropped) else hub

/-- Whether a connection is still held by somebody. -/
def isHeld (hub : Hub) (id : ConnectionId) : Bool :=
  (hub.connection? id).any (·.held)

/-- Whether an empty mailbox of a connection will stay empty. -/
def isDisconnected (hub : Hub) (id : ConnectionId) : Bool :=
  (hub.connection? id).any (·.isDisconnected)

/-- The live registered connections of a user. -/
def connectionsOf (hub : Hub) (user : UserId) : List ConnectionId :=
  (hub.roster.idsOf user).filter hub.isHeld

/-- How many users are on the roster. -/
def userCount (hub : Hub) : Nat := hub.roster.userCount

/-- How many connections are on the roster. -/
def connectionCount (hub : Hub) : Nat := hub.roster.connectionCount

/-! ### Delivery -/

/-- Offers an envelope to one connection. -/
def enqueue (hub : Hub) (id : ConnectionId) (e : Envelope) : Except EnqueueError Unit × Hub :=
  match hub.connection? id with
  | none => (.error .closed, hub)
  | some c =>
    let (result, c) := c.enqueue e
    (result, hub.update id fun _ => c)

/-- Offers an envelope to one connection of a user and counts what became of it. -/
def deliver (e : Envelope) (user : UserId) (state : Delivery × Hub) (id : ConnectionId) :
    Delivery × Hub :=
  let (d, hub) := state
  let d := { d with recipients := d.recipients + 1 }
  match hub.enqueue id e with
  | (.ok (), hub) => ({ d with delivered := d.delivered + 1 }, hub)
  | (.error .full, hub) => ({ d with dropped := d.dropped + 1 }, hub.note (.queueFull id user))
  | (.error .closed, hub) => ({ d with dropped := d.dropped + 1 }, hub)

/-- Offers an envelope to every live registered connection of every listed user. -/
def fanOut (hub : Hub) (users : List UserId) (e : Envelope) : Delivery × Hub :=
  users.eraseDups.foldl
    (fun state user => (hub.connectionsOf user).foldl (deliver e user) state)
    ({}, hub)

/-- Sends a message to the participants of a conversation, as far as they can be found out. That its
envelope cannot be made is left out: it cannot happen for a JSON value (`Envelope.newMessage`). -/
def broadcast (hub : Hub) (participants : Except LookupError (List UserId))
    (conversation : ConversationId) (message : Json) : Delivery × Hub :=
  match participants with
  | .error e => ({}, hub.note (.broadcastDropped e))
  | .ok users => hub.fanOut users (.newMessage conversation message)

/-- Takes the oldest envelope out of the mailbox of a connection. -/
def dequeue (hub : Hub) (id : ConnectionId) : Option (Envelope × Hub) := do
  let c ← hub.connection? id
  let (e, c) ← c.dequeue
  pure (e, hub.update id fun _ => c)

/-- Takes up to `count` envelopes out of the mailbox of a connection, oldest first. -/
def take (hub : Hub) (id : ConnectionId) : (count : Nat) → List Envelope × Hub
  | 0 => ([], hub)
  | count + 1 =>
    match hub.dequeue id with
    | none => ([], hub)
    | some (e, hub) =>
      let (rest, hub) := take hub id count
      (e :: rest, hub)

/-- Takes all envelopes out of the mailbox of a connection. -/
def drain (hub : Hub) (id : ConnectionId) : List Envelope × Hub :=
  hub.take id ((hub.connection? id).elim 0 (·.mailbox.queue.length))

end Hub

end Parley
