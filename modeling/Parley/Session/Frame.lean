import Parley.Text.Utf8
import Parley.Text.Decimal

/-!
# Frames

What travels over the socket of a session, in either direction.
-/

namespace Parley

/-- A message or a control frame. -/
inductive Frame where
  | text (content : String)
  | binary (bytes : List UInt8)
  | ping (bytes : List UInt8)
  | pong (bytes : List UInt8)
  /-- The end, with a code and a reason if they are given. -/
  | close (reason : Option (Nat × String))
  deriving DecidableEq

namespace Frame

/-- The closing frame of a session that ends in order. -/
def goodbye : Frame := .close (some (1000, ""))

/-- The text that a frame carries: a text frame, or a binary frame in UTF-8. -/
def content? : Frame → Option String
  | .text content => some content
  | .binary bytes => Utf8.decode? bytes
  | _ => none

end Frame

end Parley
