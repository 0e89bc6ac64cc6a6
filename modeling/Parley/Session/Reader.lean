import Parley.Session.Exit
import Parley.Session.Frame
import Parley.Session.Request
import Parley.Session.Settings

/-!
# The reading side of a session

A `Reader` acts on what it finds on the socket. Texts are requests, and a pong moves the time by
which the next one is due; no other frame does. It ends when the peer closes, the stream ends or
fails, no pong came in time, or the closed signal is raised.
-/

namespace Parley

/-- The reading side: when a pong is due, what is left of the allowance, and whether an answer to a
post is awaited. -/
structure Reader where
  deadline : Duration
  allowance : Allowance
  awaiting : Bool := false
  deriving DecidableEq, Repr

/-- What a reader finds when it looks. -/
inductive Reading where
  /-- The closed signal is raised. -/
  | signal
  | frame (frame : Frame)
  /-- The stream failed. -/
  | failed (reason : String)
  /-- The stream ended. -/
  | ended
  /-- No pong came in time. -/
  | expired

/-- What follows from a reading. -/
inductive Reaction where
  /-- The reader looks again. -/
  | proceed
  /-- A content is to be posted, and its answer awaited. -/
  | post (conversation : ConversationId) (content : String)
  /-- The reader ends. -/
  | stop (exit : SessionExit)
  deriving DecidableEq, Repr

namespace Reader

/-- A reader that starts at a given time. -/
def start (s : Settings) (now : Duration) : Reader where
  deadline := now + s.pongWait
  allowance := { limit := s.rateLimitCount, window := s.rateLimitWindow }

/-- Acts on a text. -/
def receive (r : Reader) (now : Duration) (text : String) : Reaction × Reader :=
  let (decision, allowance) := Request.decide r.allowance now text
  let r := { r with allowance }
  match decision with
  | .post conversation content => (.post conversation content, { r with awaiting := true })
  | _ => (.proceed, r)

/-- Acts on a reading. -/
def react (s : Settings) (now : Duration) (r : Reader) : Reading → Reaction × Reader
  | .signal => (.stop .unregistered, r)
  | .expired => (.stop (.failed .timedOut), r)
  | .ended => (.stop .streamEnded, r)
  | .failed reason => (.stop (.failed (.read reason)), r)
  | .frame frame =>
    match frame with
    | .close _ => (.stop .closedByPeer, r)
    | .pong _ => (.proceed, { r with deadline := now + s.pongWait })
    | .ping _ => (.proceed, r)
    | .text _ | .binary _ =>
      match frame.content? with
      | some text => r.receive now text
      | none => (.proceed, r)

/-- The answer to a post has come. -/
def answered (r : Reader) : Reader :=
  { r with awaiting := false }

end Reader

end Parley
