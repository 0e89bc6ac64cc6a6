/-!
# Base64

The standard and the URL-safe alphabet over byte lists. `Base64.urlEncode` writes no padding, and
`Base64.urlDecode?` accepts exactly that form: no padding, and no bit set beyond the last whole
byte. `Base64.encodePadded` is the standard form with padding.
-/

namespace Parley.Base64

/-- The sixty-four digits of the URL-safe alphabet, in order. -/
def urlAlphabet : List Char :=
  "ABCDEFGHIJKLMNOPQRSTUVWXYZabcdefghijklmnopqrstuvwxyz0123456789-_".toList

/-- The sixty-four digits of the standard alphabet, in order. -/
def standardAlphabet : List Char :=
  "ABCDEFGHIJKLMNOPQRSTUVWXYZabcdefghijklmnopqrstuvwxyz0123456789+/".toList

/-- The digit of a six-bit value. -/
def digit (alphabet : List Char) (value : Nat) : Char :=
  alphabet.getD (value % 64) 'A'

/-- The six-bit value of a digit. -/
def value? (alphabet : List Char) (c : Char) : Option Nat :=
  alphabet.idxOf? c

/-- The digits of a byte string: three bytes are four digits, and a last group of one or two
bytes is two or three digits with zero bits at the end. -/
def encode (alphabet : List Char) : List UInt8 → List Char
  | [] => []
  | [a] =>
    let n := a.toNat * 16
    [digit alphabet (n / 64), digit alphabet n]
  | [a, b] =>
    let n := (a.toNat * 256 + b.toNat) * 4
    [digit alphabet (n / 4096), digit alphabet (n / 64), digit alphabet n]
  | a :: b :: c :: rest =>
    let n := (a.toNat * 256 + b.toNat) * 256 + c.toNat
    digit alphabet (n / 262144) :: digit alphabet (n / 4096) :: digit alphabet (n / 64)
      :: digit alphabet n :: encode alphabet rest

/-- The byte string that unpadded digits stand for. A group of one digit, a character outside
the alphabet, and a bit set after the last whole byte are refused. -/
def decode? (alphabet : List Char) : List Char → Option (List UInt8)
  | [] => some []
  | [_] => none
  | [a, b] => do
    let n := (← value? alphabet a) * 64 + (← value? alphabet b)
    if n % 16 = 0 then pure [UInt8.ofNat (n / 16)] else none
  | [a, b, c] => do
    let n := ((← value? alphabet a) * 64 + (← value? alphabet b)) * 64 + (← value? alphabet c)
    if n % 4 = 0 then pure [UInt8.ofNat (n / 1024), UInt8.ofNat (n / 4)] else none
  | a :: b :: c :: d :: rest => do
    let n := (((← value? alphabet a) * 64 + (← value? alphabet b)) * 64
      + (← value? alphabet c)) * 64 + (← value? alphabet d)
    let bytes ← decode? alphabet rest
    pure (UInt8.ofNat (n / 65536) :: UInt8.ofNat (n / 256) :: UInt8.ofNat n :: bytes)

/-- URL-safe digits without padding. -/
def urlEncode (bytes : List UInt8) : List Char :=
  encode urlAlphabet bytes

/-- The byte string of URL-safe digits without padding. -/
def urlDecode? (digits : List Char) : Option (List UInt8) :=
  decode? urlAlphabet digits

/-- Standard digits, padded to whole groups of four. -/
def encodePadded (bytes : List UInt8) : List Char :=
  encode standardAlphabet bytes ++ List.replicate ((3 - bytes.length % 3) % 3) '='

end Parley.Base64
