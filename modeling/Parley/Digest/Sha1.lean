import Parley.Digest.Words

/-!
# SHA-1

`Sha1.hash` is the digest of a byte string. The WebSocket handshake answers with it.
-/

namespace Parley.Sha1

open Digest

/-- The chaining state: five words. -/
structure Chain where
  a : UInt32
  b : UInt32
  c : UInt32
  d : UInt32
  e : UInt32

/-- The state before the first block. -/
def Chain.initial : Chain :=
  ⟨0x67452301, 0xefcdab89, 0x98badcfe, 0x10325476, 0xc3d2e1f0⟩

/-- Extends a schedule, newest word first, by `count` words. -/
def extend : (count : Nat) → List UInt32 → List UInt32
  | 0, words => words
  | count + 1, words =>
    let w := words.getD 2 0 ^^^ words.getD 7 0 ^^^ words.getD 13 0 ^^^ words.getD 15 0
    extend count (rotateLeft w 1 :: words)

/-- The eighty words of a block. -/
def schedule (block : List UInt32) : List UInt32 :=
  (extend 64 block.reverse).reverse

/-- The mixing function and the constant of a round. -/
def mixing (round : Nat) (s : Chain) : UInt32 × UInt32 :=
  if round < 20 then ((s.b &&& s.c) ||| ((~~~ s.b) &&& s.d), 0x5a827999)
  else if round < 40 then (s.b ^^^ s.c ^^^ s.d, 0x6ed9eba1)
  else if round < 60 then ((s.b &&& s.c) ||| (s.b &&& s.d) ||| (s.c &&& s.d), 0x8f1bbcdc)
  else (s.b ^^^ s.c ^^^ s.d, 0xca62c1d6)

/-- One round. -/
def step (s : Chain) (word : UInt32) (round : Nat) : Chain :=
  let (f, k) := mixing round s
  ⟨rotateLeft s.a 5 + f + s.e + k + word, s.a, rotateLeft s.b 30, s.c, s.d⟩

/-- The state after a block. -/
def compress (s : Chain) (block : List UInt32) : Chain :=
  let t := (schedule block).zipIdx.foldl (fun t (word, round) => step t word round) s
  ⟨s.a + t.a, s.b + t.b, s.c + t.c, s.d + t.d, s.e + t.e⟩

/-- The digest of a byte string: twenty bytes. -/
def hash (bytes : List UInt8) : List UInt8 :=
  let words := wordsOf (pad bytes)
  let s := foldBlocks compress (words.length / 16) Chain.initial words
  bytesOf [s.a, s.b, s.c, s.d, s.e]

end Parley.Sha1
