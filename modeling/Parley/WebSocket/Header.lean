import Parley.Digest.Words

/-!
# Frame headers

What stands before the payload of a WebSocket frame: whether the frame ends its message, what it
is, how long its payload is, and the mask its payload is covered with. `FrameHeader.read?` takes a
header off bytes once all of it has arrived, and `FrameHeader.toBytes` writes one.
-/

namespace Parley.WebSocket

/-- What a frame is. -/
inductive Opcode where
  | continuation
  | text
  | binary
  | close
  | ping
  | pong
  deriving DecidableEq, Repr

namespace Opcode

/-- The number of an opcode. -/
def code : Opcode → Nat
  | .continuation => 0
  | .text => 1
  | .binary => 2
  | .close => 8
  | .ping => 9
  | .pong => 10

/-- The opcode of a number; the other numbers are reserved. -/
def ofCode? (n : Nat) : Option Opcode :=
  [continuation, text, binary, close, ping, pong].find? (·.code = n)

/-- Whether a frame stands by itself between the frames of a message. -/
def isControl : Opcode → Bool
  | .close | .ping | .pong => true
  | .continuation | .text | .binary => false

end Opcode

/-- What stands before a payload. -/
structure FrameHeader where
  /-- Whether the frame is the last one of its message. -/
  final : Bool
  /-- Three bits for which no meaning has been agreed on. -/
  reserved : Nat
  /-- The number of the opcode. -/
  code : Nat
  /-- The four bytes that the payload is covered with. -/
  mask : Option (List UInt8)
  length : Nat
  deriving DecidableEq, Repr

/-- Takes bytes off the front, if so many have arrived. -/
def takeBytes? (count : Nat) (bytes : List UInt8) : Option (List UInt8 × List UInt8) :=
  if count ≤ bytes.length then some (bytes.splitAt count) else none

/-- The number that bytes stand for, the highest first. -/
def bigEndian (bytes : List UInt8) : Nat :=
  bytes.foldl (fun n b => 256 * n + b.toNat) 0

/-- Covers bytes with a mask, or uncovers them. -/
def applyMask (mask payload : List UInt8) : List UInt8 :=
  payload.zipIdx.map fun (b, i) => b ^^^ mask.getD (i % 4) 0

namespace FrameHeader

/-- How many bytes the length takes whose short form is given. -/
def extendedSize (short : Nat) : Nat :=
  if short = 126 then 2 else if short = 127 then 8 else 0

/-- Takes a header off the front, if all of it has arrived. -/
def read? (bytes : List UInt8) : Option (FrameHeader × List UInt8) := do
  let (first, rest) ← takeBytes? 2 bytes
  let a := (first.getD 0 0).toNat
  let b := (first.getD 1 0).toNat
  let short := b % 128
  let (extended, rest) ← takeBytes? (extendedSize short) rest
  let (mask, rest) ← takeBytes? (if 128 ≤ b then 4 else 0) rest
  pure
    ({ final := 128 ≤ a, reserved := a / 16 % 8, code := a % 16,
       mask := if 128 ≤ b then some mask else none,
       length := if extended = [] then short else bigEndian extended }, rest)

/-- The bytes of a header. -/
def toBytes (h : FrameHeader) : List UInt8 :=
  let a := (if h.final then 128 else 0) + 16 * h.reserved + h.code
  let masked := if h.mask.isSome then 128 else 0
  let length :=
    if h.length < 126 then [UInt8.ofNat (masked + h.length)]
    else if h.length < 65536 then UInt8.ofNat (masked + 126) :: Digest.lowBytes h.length 2
    else UInt8.ofNat (masked + 127) :: Digest.lowBytes h.length 8
  UInt8.ofNat a :: length ++ h.mask.getD []

end FrameHeader

end Parley.WebSocket
