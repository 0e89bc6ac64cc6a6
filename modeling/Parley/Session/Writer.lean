import Parley.Hub.Envelope
import Parley.Session.Exit
import Parley.Session.Frame
import Parley.Session.Settings

/-!
# The writing side of a session

A `Writer` is the only one who writes to the socket, one frame at a time. While it serves it sends
envelopes and, when they are due, pings. Once the closed signal is raised it drains the mailbox and
sends a closing frame. A write that fails or takes too long ends it.
-/

namespace Parley

/-- How far a writer has come. -/
inductive WriterStage where
  | serving
  /-- The closed signal was seen; the mailbox is being emptied. -/
  | draining
  /-- The closing frame is being written. -/
  | closing
  deriving DecidableEq, Repr

/-- The writing side: its stage, when the next ping is due, and the frame being written with the
time at which the write began. -/
structure Writer where
  stage : WriterStage := .serving
  pingDue : Duration
  writing : Option (Frame × Duration) := none
  deriving DecidableEq

/-- What happens to a writer. -/
inductive Writing where
  /-- The closed signal is raised. -/
  | signal
  /-- An envelope came out of the mailbox. -/
  | dequeued (envelope : Envelope)
  /-- The mailbox is empty while it is drained. -/
  | emptied
  /-- The mailbox is empty and nothing can come into it any more. -/
  | disconnected
  /-- A ping is due. -/
  | tick
  /-- The frame has been written. -/
  | written
  /-- The socket refused the frame. -/
  | refused (reason : String)
  /-- The write took too long. -/
  | overdue

namespace Writer

/-- How late a tick may be noticed and still count as in time. -/
def tickTolerance : Duration := .millis 5

/-- A writer that starts at a given time. -/
def start (s : Settings) (now : Duration) : Writer :=
  { pingDue := now + s.effectivePingPeriod }

/-- Begins to write a frame. -/
def send (w : Writer) (now : Duration) (frame : Frame) : Writer :=
  { w with writing := some (frame, now) }

/-- When the ping after the one now due is due: a period later, counted from now if the present
one is late. -/
def nextPing (s : Settings) (now due : Duration) : Duration :=
  (if due + tickTolerance < now then now else due) + s.effectivePingPeriod

/-- Acts on what happened; the writer ends where an exit is given. -/
def react (s : Settings) (now : Duration) (w : Writer) : Writing → Option SessionExit × Writer
  | .signal => (none, { w with stage := .draining })
  | .dequeued envelope => (none, w.send now (.text envelope.payload))
  | .emptied => (none, { w with stage := .closing }.send now .goodbye)
  | .disconnected => (some .unregistered, w)
  | .tick => (none, { w with pingDue := nextPing s now w.pingDue }.send now (.ping []))
  | .written =>
    let w := { w with writing := none }
    (if w.stage = .closing then some .unregistered else none, w)
  | .refused reason => (some (.failed (.write reason)), { w with writing := none })
  | .overdue => (some (.failed .deadline), { w with writing := none })

end Writer

end Parley
