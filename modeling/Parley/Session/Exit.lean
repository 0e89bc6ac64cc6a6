import Parley.Text.Quoted

/-!
# How a session ends

A session reads and writes independently; each side ends with a `SessionExit`.
-/

namespace Parley

/-- A socket that failed. -/
inductive TransportFault where
  | write (reason : String)
  /-- A write took too long. -/
  | deadline
  | read (reason : String)
  /-- The peer did not answer in time. -/
  | timedOut
  deriving DecidableEq, Repr

/-- Why one side of a session ended. -/
inductive SessionExit where
  | closedByPeer
  | streamEnded
  /-- The connection was taken off the roster. -/
  | unregistered
  | failed (fault : TransportFault)
  deriving DecidableEq, Repr

/-- The text of a fault. -/
def TransportFault.text : TransportFault → String
  | .write reason => "write failed: " ++ reason
  | .deadline => "write deadline exceeded"
  | .read reason => "read failed: " ++ reason
  | .timedOut => "keep-alive timeout"

/-- The name of a fault. -/
def TransportFault.label : TransportFault → String
  | .write reason => "Write(" ++ Quoted.quote reason ++ ")"
  | .deadline => "Deadline"
  | .read reason => "Read(" ++ Quoted.quote reason ++ ")"
  | .timedOut => "TimedOut"

namespace SessionExit

/-- The text of an exit. -/
def text : SessionExit → String
  | .closedByPeer => "closed by peer"
  | .streamEnded => "stream ended"
  | .unregistered => "unregistered"
  | .failed fault => fault.text

/-- The name of an exit. -/
def label : SessionExit → String
  | .closedByPeer => "ClosedByPeer"
  | .streamEnded => "StreamEnded"
  | .unregistered => "Unregistered"
  | .failed fault => "Failed(" ++ fault.label ++ ")"

/-- Whether an exit is a failure. -/
def isFailure : SessionExit → Bool
  | .failed _ => true
  | _ => false

end SessionExit

end Parley
