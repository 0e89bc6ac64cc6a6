import Parley.Session.Basic
import Parley.WebSocket.Decoder

/-!
# Sockets in memory

A `Socket` is the transport of one session as seen from outside: what the peer has sent and the
reader has not read yet, how the sink treats what the writer writes, and what it has taken so far.

A socket with a decoder is a WebSocket: its peer sends bytes, it answers pings by itself, it refuses
to write once the peer has closed, and the peer sees when it is gone.
-/

namespace Parley.Loopback

/-- What the peer has sent. -/
inductive Arrival where
  | frame (frame : Frame)
  | failed (reason : String)
  | ended

/-- The reading that an arrival gives. -/
def Arrival.reading : Arrival → Reading
  | .frame f => .frame f
  | .failed reason => .failed reason
  | .ended => .ended

/-- How the sink treats a write. -/
inductive SinkMode where
  | ready
  /-- Nothing is taken. -/
  | stalled
  /-- A frame is taken, and its write does not end. -/
  | unflushed
  /-- Every write is refused. -/
  | broken (reason : String)
  deriving DecidableEq

/-- What has come out of the sink. -/
inductive Sent where
  | frame (frame : Frame)
  /-- The transport is gone. -/
  | endOfStream

/-- The transport of a session. -/
structure Socket where
  /-- What has arrived and is not read, oldest first. -/
  inbox : List Arrival := []
  mode : SinkMode := .ready
  /-- Whether the frame being written has been taken. -/
  taken : Bool := false
  /-- What turns bytes into frames, if the peer sends bytes. -/
  decoder : Option WebSocket.Decoder := none
  /-- What came out of the sink and when, newest first. -/
  sent : List (Duration × Sent) := []

/-- How a write stands. -/
inductive WriteState where
  | done
  | pending
  | refused (reason : String)

namespace Socket

/-- Adds arrivals. -/
def push (s : Socket) (arrivals : List Arrival) : Socket :=
  { s with inbox := s.inbox ++ arrivals }

/-- Whether the socket is a WebSocket. -/
def isFramed (s : Socket) : Bool :=
  s.decoder.isSome

/-- What frames and faults arrive as. -/
def arrivalOf : Except WebSocket.FramingFault Frame → Arrival
  | .ok frame => .frame frame
  | .error fault => .failed fault.text

/-- Bytes arrive. -/
def pushBytes (s : Socket) (bytes : List UInt8) : Socket :=
  match s.decoder with
  | none => s
  | some decoder =>
    let (frames, decoder) := decoder.feed bytes
    { s.push (frames.map arrivalOf) with decoder := some decoder }

/-- Something comes out of the sink. -/
def emit (s : Socket) (now : Duration) (item : Sent) : Socket :=
  { s with sent := (now, item) :: s.sent }

/-- What a WebSocket does by itself when a frame is read. -/
def reflex (s : Socket) (now : Duration) : Arrival → Socket
  | .frame (.ping bytes) =>
    match s.mode with
    | .ready => s.emit now (.frame (.pong bytes))
    | _ => s
  | .frame (.close _) => { s with mode := .broken "sending after closing is not allowed" }
  | _ => s

/-- Takes the oldest arrival. -/
def next? (s : Socket) (now : Duration) : Option (Arrival × Socket) :=
  match s.inbox with
  | [] => none
  | arrival :: rest =>
    let s := { s with inbox := rest }
    some (arrival, if s.isFramed then s.reflex now arrival else s)

/-- Tries to get a frame through the sink. -/
def write (s : Socket) (now : Duration) (frame : Frame) : WriteState × Socket :=
  let take (s : Socket) : Socket := if s.taken then s else s.emit now (.frame frame)
  match s.mode with
  | .ready => (.done, { take s with taken := false })
  | .stalled => (.pending, s)
  | .unflushed => (.pending, { take s with taken := true })
  | .broken reason => (.refused reason, { s with taken := false })

/-- The peer is gone: reading fails after what has arrived, and so does writing. -/
def hangUp (s : Socket) : Socket :=
  if s.isFramed then
    { s.push [.failed "connection reset without closing handshake"] with
      mode := .broken "broken pipe" }
  else s.push [.ended]

end Socket

end Parley.Loopback
