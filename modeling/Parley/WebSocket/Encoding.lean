import Parley.Session.Frame
import Parley.WebSocket.Header

/-!
# Frames as bytes

The bytes in which a client sends frames: the payload of each is covered with a mask. `encode` is a
frame in one piece, and `encodeParts` a text message in several.
-/

namespace Parley.WebSocket

/-- The opcode of a frame. -/
def opcodeOf : Frame → Opcode
  | .text _ => .text
  | .binary _ => .binary
  | .ping _ => .ping
  | .pong _ => .pong
  | .close _ => .close

/-- The payload of a frame. -/
def payloadOf : Frame → List UInt8
  | .text content => Utf8.encode content.toList
  | .binary bytes | .ping bytes | .pong bytes => bytes
  | .close none => []
  | .close (some (code, reason)) => Digest.lowBytes code 2 ++ Utf8.encode reason.toList

/-- A piece of a message, or a message in one piece. -/
def encodePiece (mask : List UInt8) (final : Bool) (opcode : Opcode) (payload : List UInt8) :
    List UInt8 :=
  FrameHeader.toBytes
      { final, reserved := 0, code := opcode.code, mask := some mask, length := payload.length }
    ++ applyMask mask payload

/-- A frame in one piece. -/
def encode (mask : List UInt8) (frame : Frame) : List UInt8 :=
  encodePiece mask true (opcodeOf frame) (payloadOf frame)

/-- The pieces of a text that come after its first one. -/
def encodeRest (mask : List UInt8) : List String → List UInt8
  | [] => []
  | [last] => encodePiece mask true .continuation (Utf8.encode last.toList)
  | part :: rest =>
    encodePiece mask false .continuation (Utf8.encode part.toList) ++ encodeRest mask rest

/-- A text in several pieces. -/
def encodeParts (mask : List UInt8) : List String → List UInt8
  | [] => []
  | part :: rest =>
    encodePiece mask rest.isEmpty .text (Utf8.encode part.toList) ++ encodeRest mask rest

end Parley.WebSocket
