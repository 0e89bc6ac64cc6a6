/-!
# Decimal numerals

Digits, unsigned numerals and zero padding. `Decimal.number?` reads a non-empty run of ASCII
digits; `Decimal.padded` writes a number with at least the given number of digits.
-/

namespace Parley.Decimal

/-- The value of an ASCII decimal digit. -/
def value? (c : Char) : Option Nat :=
  if '0' ≤ c ∧ c ≤ '9' then some (c.toNat - '0'.toNat) else none

/-- Whether a character is an ASCII decimal digit. -/
def isDigit (c : Char) : Bool :=
  '0' ≤ c ∧ c ≤ '9'

/-- Ten to a power: what a decimal with so many places is divided by. -/
def scale : (places : Nat) → Nat
  | 0 => 1
  | places + 1 => 10 * scale places

/-- The number that a run of digits stands for, with `n` read before it. -/
def accumulate (n : Nat) (digits : List Char) : Nat :=
  digits.foldl (fun n c => 10 * n + (c.toNat - '0'.toNat)) n

/-- The number written as one or more ASCII digits and nothing else. -/
def number? (text : List Char) : Option Nat :=
  if text ≠ [] ∧ text.all isDigit then some (accumulate 0 text) else none

/-- The digits of a number. -/
def digits (n : Nat) : List Char :=
  Nat.toDigits 10 n

/-- The digits of a number, led by zeros up to `width` digits. -/
def padded (width n : Nat) : List Char :=
  let ds := digits n
  List.replicate (width - ds.length) '0' ++ ds

/-- The digits of an integer, a minus sign in front of a negative one. -/
def signed : Int → List Char
  | .ofNat n => digits n
  | .negSucc n => '-' :: digits (n + 1)

/-- An optional plus sign and digits: the form in which counts are given on a command line. -/
def count? : List Char → Option Nat
  | '+' :: rest => number? rest
  | text => number? text

end Parley.Decimal
