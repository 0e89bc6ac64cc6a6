/-!
# Byte strings as 32-bit words

What the hash functions share: big-endian words, rotation, and padding to whole blocks of sixteen
words.
-/

namespace Parley.Digest

/-- A word turned left by `n` bits. -/
def rotateLeft (x : UInt32) (n : UInt32) : UInt32 :=
  (x <<< n) ||| (x >>> (32 - n))

/-- A word turned right by `n` bits. -/
def rotateRight (x : UInt32) (n : UInt32) : UInt32 :=
  (x >>> n) ||| (x <<< (32 - n))

/-- The `count` lowest bytes of a number, the highest of them first. -/
def lowBytes (n : Nat) : (count : Nat) → List UInt8
  | 0 => []
  | count + 1 => UInt8.ofNat (n / 256 ^ count) :: lowBytes n count

/-- The words of a byte string, four bytes each; what is left over at the end is not a word. -/
def wordsOf : List UInt8 → List UInt32
  | a :: b :: c :: d :: rest =>
    ((a.toUInt32 <<< 24) ||| (b.toUInt32 <<< 16) ||| (c.toUInt32 <<< 8) ||| d.toUInt32)
      :: wordsOf rest
  | _ => []

/-- The bytes of words, the highest byte of each first. -/
def bytesOf (words : List UInt32) : List UInt8 :=
  words.flatMap fun w => lowBytes w.toNat 4

/-- A byte string, the byte 128, zeros up to the last eight bytes of a block, and its length in
bits. -/
def pad (bytes : List UInt8) : List UInt8 :=
  let size := bytes.length
  bytes ++ 128 :: List.replicate ((119 - size % 64) % 64) 0 ++ lowBytes (8 * size) 8

/-- Folds a step over the blocks of sixteen words at the front of `words`. -/
def foldBlocks {σ : Type} (step : σ → List UInt32 → σ) : (blocks : Nat) → σ → List UInt32 → σ
  | 0, state, _ => state
  | blocks + 1, state, words =>
    foldBlocks step blocks (step state (words.take 16)) (words.drop 16)

end Parley.Digest
