/-!
# Hexadecimal digits

The sixteen digits in both directions, and byte strings written as two lower-case digits a byte.
`Hex.value?` reads a digit of either case; `Hex.ofBytes` and `Hex.toBytes?` are the two
directions for byte strings.
-/

namespace Parley.Hex

/-- The value of a hexadecimal digit of either case. -/
def value? (c : Char) : Option Nat :=
  if '0' ≤ c ∧ c ≤ '9' then some (c.toNat - '0'.toNat)
  else if 'a' ≤ c ∧ c ≤ 'f' then some (c.toNat - 'a'.toNat + 10)
  else if 'A' ≤ c ∧ c ≤ 'F' then some (c.toNat - 'A'.toNat + 10)
  else none

/-- The two lower-case digits of a byte, the high half first. -/
def byteDigits (b : UInt8) : List Char :=
  [Nat.digitChar (b.toNat / 16), Nat.digitChar (b.toNat % 16)]

/-- The lower-case digits of a byte string. -/
def ofBytes (bytes : List UInt8) : List Char :=
  bytes.flatMap byteDigits

/-- The byte string that an even number of digits stands for. -/
def toBytes? : List Char → Option (List UInt8)
  | [] => some []
  | [_] => none
  | a :: b :: rest => do
    let high ← value? a
    let low ← value? b
    let bytes ← toBytes? rest
    pure (UInt8.ofNat (16 * high + low) :: bytes)

/-- The number that a run of digits stands for, most significant digit first. -/
def number? (digits : List Char) : Option Nat :=
  digits.foldlM (fun n c => (value? c).map (16 * n + ·)) 0

/-- The lower-case digits of a number, without leading zeros. -/
def ofNat (n : Nat) : List Char :=
  Nat.toDigits 16 n

end Parley.Hex
