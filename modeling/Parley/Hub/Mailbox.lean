import Parley.Hub.Envelope

/-!
# Mailboxes

A `Mailbox` is the bounded queue between those who send to a connection and the one who writes to
its socket. The receiving side may close it, which keeps what is queued, or drop it, which does
not; either way nothing more is accepted.
-/

namespace Parley

/-- What the receiving side has done with the mailbox. -/
inductive ReceiverState where
  | listening
  | closed
  | gone
  deriving DecidableEq, Repr

/-- Why an envelope was not accepted. -/
inductive EnqueueError where
  /-- The queue is at its capacity. -/
  | full
  /-- Nobody will take it. -/
  | closed
  deriving DecidableEq, Repr

/-- The text of an error. -/
def EnqueueError.text : EnqueueError → String
  | .full => "outbound queue is full"
  | .closed => "connection is closed"

/-- The name of an error. -/
def EnqueueError.label : EnqueueError → String
  | .full => "Full"
  | .closed => "Closed"

/-- A bounded queue, oldest envelope first. -/
structure Mailbox where
  capacity : Nat
  queue : List Envelope
  receiver : ReceiverState

namespace Mailbox

/-- An empty mailbox of at least one place. -/
def ofCapacity (capacity : Nat) : Mailbox :=
  ⟨max capacity 1, [], .listening⟩

/-- Adds an envelope at the end. -/
def offer (m : Mailbox) (e : Envelope) : Except EnqueueError Mailbox :=
  if m.receiver ≠ .listening then .error .closed
  else if m.queue.length < m.capacity then .ok { m with queue := m.queue ++ [e] }
  else .error .full

/-- Takes the oldest envelope. -/
def take (m : Mailbox) : Option (Envelope × Mailbox) :=
  match m.queue with
  | [] => none
  | e :: rest => some (e, { m with queue := rest })

/-- Accepts nothing more. -/
def close (m : Mailbox) : Mailbox :=
  { m with receiver := if m.receiver = .listening then .closed else m.receiver }

/-- Accepts nothing more and forgets what is queued. -/
def discard (m : Mailbox) : Mailbox :=
  { m with queue := [], receiver := .gone }

end Mailbox

end Parley
