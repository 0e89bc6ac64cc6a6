import Parley.Session.Frame
import Parley.WebSocket.Header

/-!
# Frames from bytes

A `Decoder` turns the bytes that a client sends into frames as they arrive. It holds the bytes of a
frame that is not complete and the pieces of a message that is not complete. Control frames may come
between the pieces of a message.

A message is no longer than a limit, a text is UTF-8 at every piece, and the frames of a client are
masked. The first fault ends the decoder, and so does a closing frame.
-/

namespace Parley.WebSocket

/-- Why bytes are not the frames of a client. -/
inductive FramingFault where
  | reservedOpcode
  | reservedBits
  | unmasked
  | tooLong
  | notUtf8
  /-- A control frame in several pieces. -/
  | splitControl
  | controlTooLong
  /-- A closing frame with half a code. -/
  | halfCode
  /-- A piece of no message. -/
  | strayPiece
  /-- A message that begins inside another. -/
  | pieceExpected
  deriving DecidableEq, Repr

/-- The text of a fault. -/
def FramingFault.text : FramingFault → String
  | .reservedOpcode => "reserved opcode"
  | .reservedBits => "reserved bits are non-zero"
  | .unmasked => "unmasked frame from client"
  | .tooLong => "message too long"
  | .notUtf8 => "invalid UTF-8"
  | .splitControl => "fragmented control frame"
  | .controlTooLong => "control frame too big"
  | .halfCode => "invalid close sequence"
  | .strayPiece => "continuation frame without a message"
  | .pieceExpected => "continuation frame expected"

/-- The longest payload of a single frame. -/
def maxFrameSize : Nat := 16777216

/-- The longest payload of a control frame. -/
def maxControlSize : Nat := 125

/-- A message whose pieces are arriving. -/
structure Assembly where
  isText : Bool
  bytes : List UInt8 := []

namespace Assembly

/-- Whether bytes are UTF-8 as far as they go. -/
def isBeginning (bytes : List UInt8) : Bool :=
  (Utf8.scan none bytes).1.all Option.isSome

/-- Adds a piece. -/
def add (limit : Nat) (a : Assembly) (payload : List UInt8) : Except FramingFault Assembly :=
  let bytes := a.bytes ++ payload
  if limit < bytes.length then .error .tooLong
  else if a.isText && !isBeginning bytes then .error .notUtf8
  else .ok { a with bytes }

/-- The message, once its last piece has arrived. -/
def finish (a : Assembly) : Except FramingFault Frame :=
  if a.isText then
    match Utf8.decode? a.bytes with
    | some content => .ok (.text content)
    | none => .error .notUtf8
  else .ok (.binary a.bytes)

end Assembly

/-- The bytes and pieces held, and whether the end has come. -/
structure Decoder where
  /-- How long a message may be. -/
  limit : Nat
  buffer : List UInt8 := []
  assembly : Option Assembly := none
  ended : Bool := false

namespace Decoder

/-- The closing frame of a payload. -/
def readClose : List UInt8 → Except FramingFault Frame
  | [] => .ok (.close none)
  | [_] => .error .halfCode
  | a :: b :: reason =>
    match Utf8.decode? reason with
    | some reason => .ok (.close (some (bigEndian [a, b], reason)))
    | none => .error .notUtf8

/-- A control frame. -/
def readControl (final : Bool) (opcode : Opcode) (payload : List UInt8) :
    Except FramingFault Frame :=
  if !final then .error .splitControl
  else if maxControlSize < payload.length then .error .controlTooLong
  else
    match opcode with
    | .ping => .ok (.ping payload)
    | .pong => .ok (.pong payload)
    | _ => readClose payload

/-- The message that a piece belongs to: the one held, or a new one. -/
def assemblyFor (held : Option Assembly) (opcode : Opcode) : Except FramingFault Assembly :=
  match held, opcode with
  | some a, .continuation => .ok a
  | some _, _ => .error .pieceExpected
  | none, .continuation => .error .strayPiece
  | none, _ => .ok { isText := opcode = .text }

/-- A piece of a message: the message if it is complete, or what is held of it. -/
def readPiece (limit : Nat) (held : Option Assembly) (final : Bool) (opcode : Opcode)
    (payload : List UInt8) : Except FramingFault (Option Frame × Option Assembly) := do
  let a ← (← assemblyFor held opcode).add limit payload
  if final then pure (some (← a.finish), none) else pure (none, some a)

/-- What a header alone is refused for. -/
def checkHeader (h : FrameHeader) : Except FramingFault Opcode :=
  match Opcode.ofCode? h.code with
  | none => .error .reservedOpcode
  | some opcode => if maxFrameSize < h.length then .error .tooLong else .ok opcode

/-- A frame whose payload has arrived: what it completes, if anything. -/
def readFrame (d : Decoder) (h : FrameHeader) (opcode : Opcode) (payload : List UInt8) :
    Except FramingFault (Option Frame × Option Assembly) :=
  match h.mask with
  | none => .error .unmasked
  | some mask => do
    let payload := applyMask mask payload
    if h.reserved ≠ 0 then throw .reservedBits
    if opcode.isControl then
      let frame ← readControl h.final opcode payload
      pure (some frame, d.assembly)
    else readPiece d.limit d.assembly h.final opcode payload

/-- Takes a frame off the buffer, if all of it has arrived or what has arrived is refused. -/
def step? (d : Decoder) : Option (Except FramingFault (Option Frame × Decoder)) := do
  let (h, rest) ← FrameHeader.read? d.buffer
  match checkHeader h with
  | .error fault => pure (.error fault)
  | .ok opcode =>
    let (payload, buffer) ← takeBytes? h.length rest
    pure <| (d.readFrame h opcode payload).map fun (frame, assembly) =>
      (frame, { d with buffer, assembly })

/-- Takes all frames off the buffer. -/
def drain (d : Decoder) : List (Except FramingFault Frame) × Decoder :=
  match d.step? with
  | none => ([], d)
  | some (.error fault) => ([.error fault], { d with ended := true })
  | some (.ok (some (.close reason), next)) =>
    ([.ok (.close reason)], { next with ended := true })
  | some (.ok (frame, next)) =>
    if next.buffer.length < d.buffer.length then
      let (frames, next) := next.drain
      (frame.toList.map .ok ++ frames, next)
    else (frame.toList.map .ok, next)
termination_by d.buffer.length

/-- Bytes arrive. -/
def feed (d : Decoder) (bytes : List UInt8) : List (Except FramingFault Frame) × Decoder :=
  if d.ended then ([], d) else { d with buffer := d.buffer ++ bytes }.drain

end Decoder

end Parley.WebSocket
