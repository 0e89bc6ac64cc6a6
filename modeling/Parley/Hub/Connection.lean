import Parley.Hub.Mailbox

/-!
# Connections

A `Connection` belongs to one user and has a mailbox. It accepts envelopes until its closed signal
is raised, and counts those that it had to drop because the mailbox was full. Beside the signal it
keeps a phase, from `opened` through `closing` to `closed`. Signal and phase are two stores:
`Connection.close` and `Connection.markClosed` write both, one after the other, and nothing else
ties them together.
-/

namespace Parley

/-- Identity of a connection: its place in the order of opening. -/
abbrev ConnectionId := Nat

/-- How far a connection has come. -/
inductive Phase where
  | opened
  /-- The closed signal is raised; what is queued is being flushed. -/
  | closing
  /-- The socket is released. -/
  | closed
  deriving DecidableEq, Repr

/-- The name of a phase. -/
def Phase.label : Phase → String
  | .opened => "Open"
  | .closing => "Closing"
  | .closed => "Closed"

/-- A connection of a user. -/
structure Connection where
  user : UserId
  mailbox : Mailbox
  /-- The closed signal, which both sides of a session look at. -/
  signal : Bool := false
  phase : Phase := .opened
  /-- A count of the envelopes that found the mailbox full; it wraps around. -/
  drops : UInt64 := 0
  /-- Whether somebody still holds the connection. -/
  held : Bool := true

namespace Connection

/-- A new connection of a user. Any capacity will do; that a channel cannot be made with more than
2 ^ 61 - 1 places is left out. -/
def new (user : UserId) (capacity : Nat) : Connection :=
  { user, mailbox := .ofCapacity capacity }

/-- Whether the closed signal is raised. -/
def isClosed (c : Connection) : Bool :=
  c.signal

/-- How many envelopes found the mailbox full, as far as 64 bits tell. -/
def dropped (c : Connection) : Nat :=
  c.drops.toNat

/-- Offers an envelope without waiting. -/
def enqueue (c : Connection) (e : Envelope) : Except EnqueueError Unit × Connection :=
  if c.isClosed then (.error .closed, c)
  else
    match c.mailbox.offer e with
    | .ok mailbox => (.ok (), { c with mailbox })
    | .error .full => (.error .full, { c with drops := c.drops + 1 })
    | .error .closed => (.error .closed, c)

/-- Raises the closed signal. -/
def raise (c : Connection) : Connection :=
  { c with signal := true }

/-- An open connection begins to close. Then the signal is raised, whatever the phase. -/
def close (c : Connection) : Connection :=
  raise { c with phase := if c.phase = .opened then .closing else c.phase }

/-- The signal is raised. Then it is recorded that the socket is released. -/
def markClosed (c : Connection) : Connection :=
  { c.raise with phase := .closed }

/-- Nobody holds the connection any more. -/
def release (c : Connection) : Connection :=
  { c with held := false }

/-- Closes the receiving side of the mailbox. -/
def closeQueue (c : Connection) : Connection :=
  { c with mailbox := c.mailbox.close }

/-- Drops the receiving side of the mailbox. -/
def dropQueue (c : Connection) : Connection :=
  { c with mailbox := c.mailbox.discard }

/-- Takes the oldest envelope out of the mailbox. -/
def dequeue (c : Connection) : Option (Envelope × Connection) :=
  c.mailbox.take.map fun (e, mailbox) => (e, { c with mailbox })

/-- Whether an empty mailbox will stay empty. -/
def isDisconnected (c : Connection) : Bool :=
  c.mailbox.receiver ≠ .listening || !c.held

end Connection

end Parley
