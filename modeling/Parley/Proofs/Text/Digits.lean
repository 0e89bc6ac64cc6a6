import Mathlib.Tactic.IntervalCases
import Parley.Text.Decimal
import Parley.Text.Hex

/-!
# Digits read back

The characters that numbers are written with have the values they were written for: decimal
numerals, zero padding included, and the hexadecimal digits.
-/

namespace Parley

namespace Decimal

/-- A decimal digit is read back. -/
theorem value?_digitChar {d : Nat} (small : d < 10) : value? (Nat.digitChar d) = some d := by
  interval_cases d <;> decide

/-- Every decimal digit is the digit of a number below ten. -/
theorem exists_digitChar_of_isDigit {c : Char} (digit : isDigit c) :
    ∃ d < 10, c = Nat.digitChar d := by
  have range : 48 ≤ c.toNat ∧ c.toNat ≤ 57 := by
    simpa [isDigit, Char.le_def, UInt32.le_iff_toNat_le] using digit
  refine ⟨c.toNat - 48, by omega, ?_⟩
  have code : ∀ d < 10, Nat.digitChar d = Char.ofNat (48 + d) := by decide
  rw [code _ (by omega), Nat.add_sub_cancel' range.1, Char.ofNat_toNat]

/-- A character is read as the number below ten that it is the digit of. -/
theorem value?_eq_some_iff {c : Char} {d : Nat} :
    value? c = some d ↔ d < 10 ∧ c = Nat.digitChar d := by
  constructor
  · intro read
    have digit : isDigit c := by
      unfold value? at read
      split_ifs at read with range
      simpa [isDigit] using range
    obtain ⟨e, small, rfl⟩ := exists_digitChar_of_isDigit digit
    obtain rfl := Option.some.inj ((value?_digitChar small).symm.trans read)
    exact ⟨small, rfl⟩
  · rintro ⟨small, rfl⟩
    exact value?_digitChar small

/-- Every number has a digit. -/
theorem digits_ne_nil (n : Nat) : digits n ≠ [] :=
  Nat.toDigits_ne_nil

/-- A number below ten is one digit. -/
theorem digits_of_lt {n : Nat} (small : n < 10) : digits n = [Nat.digitChar n] :=
  Nat.toDigits_of_lt_base small

/-- The last digit of a larger number stands after those of its tenth. -/
theorem digits_of_le {n : Nat} (large : 10 ≤ n) :
    digits n = digits (n / 10) ++ [Nat.digitChar (n % 10)] :=
  Nat.toDigits_of_base_le (by omega) large

/-- The value of a digit is its distance from zero among the characters. -/
theorem value?_of_isDigit {c : Char} (digit : isDigit c) :
    value? c = some (c.toNat - '0'.toNat) := by
  simpa [value?, isDigit] using digit

/-- A number is written in digits only. -/
theorem isDigit_of_mem_digits {n : Nat} {c : Char} (inside : c ∈ digits n) : isDigit c := by
  have digit := Nat.isDigit_of_mem_toDigits (by omega) (by omega) inside
  simpa [Char.isDigit, isDigit, Char.le_def] using digit

/-- Digits are accumulated from the left. -/
theorem accumulate_append (n : Nat) (xs ys : List Char) :
    accumulate n (xs ++ ys) = accumulate (accumulate n xs) ys := by
  simp [accumulate]

/-- A digit more makes ten times the number and the digit. -/
theorem accumulate_concat {c : Char} {d : Nat} (digit : value? c = some d) (ds : List Char) :
    accumulate 0 (ds ++ [c]) = 10 * accumulate 0 ds + d := by
  obtain ⟨-, rfl⟩ := Option.ite_none_right_eq_some.mp digit |>.imp_right Option.some.inj
  rw [accumulate_append]
  rfl

/-- The digits of a number make the number. -/
@[simp]
theorem accumulate_digits (n : Nat) : accumulate 0 (digits n) = n :=
  Nat.ofDigitChars_ten_toDigits

/-! ### Padding -/

/-- A padded number has a digit. -/
theorem padded_ne_nil (width n : Nat) : padded width n ≠ [] :=
  List.append_ne_nil_of_right_ne_nil _ (digits_ne_nil n)

/-- A padded number is written in digits only. -/
theorem isDigit_of_mem_padded {width n : Nat} {c : Char} (inside : c ∈ padded width n) :
    isDigit c := by
  rcases List.mem_append.mp inside with zero | digit
  · rw [List.eq_of_mem_replicate zero]
    decide
  · exact isDigit_of_mem_digits digit

/-- Zeros make zero. -/
theorem accumulate_replicate_zero (count : Nat) :
    accumulate 0 (List.replicate count '0') = 0 := by
  induction count with
  | zero => rfl
  | succ count ih => simpa [List.replicate_succ, accumulate] using ih

/-- Padding leaves the number as it is. -/
@[simp]
theorem accumulate_padded (width n : Nat) : accumulate 0 (padded width n) = n := by
  simp [padded, accumulate_append, accumulate_replicate_zero]

/-- The scale of places is a power of ten. -/
theorem scale_eq (places : Nat) : scale places = 10 ^ places := by
  induction places with
  | zero => rfl
  | succ places ih => rw [scale, ih, Nat.pow_succ, Nat.mul_comm]

/-- A scale is positive. -/
theorem scale_pos (places : Nat) : 0 < scale places := by
  rw [scale_eq]
  exact Nat.pow_pos (by omega)

/-- A number below the scale of some places fills them exactly; without places a zero stands. -/
theorem length_padded {width n : Nat} (small : n < scale width) :
    (padded width n).length = max width 1 := by
  have some_digit : 0 < (digits n).length := List.length_pos_iff.mpr (digits_ne_nil n)
  rcases Nat.eq_zero_or_pos width with rfl | positive
  · have one : n = 0 := by simpa [scale] using small
    subst one
    rfl
  · have short : (digits n).length ≤ width :=
      (Nat.length_toDigits_le_iff (by omega) positive).mpr (scale_eq width ▸ small)
    simp [padded]
    omega

end Decimal

namespace Hex

/-- A hexadecimal digit is read back. -/
theorem value?_digitChar {d : Nat} (small : d < 16) : value? (Nat.digitChar d) = some d := by
  interval_cases d <;> decide

/-- Among the characters of ASCII those are read as a digit whose lower-case form is the digit. -/
theorem value?_ascii : ∀ n < 128, ∀ d < 16,
    value? (Char.ofNat n) = some d ↔ (Char.ofNat n).toLower = Nat.digitChar d := by
  decide +kernel

/-- A hexadecimal digit is a character of ASCII for a number below sixteen. -/
theorem lt_of_value? {c : Char} {d : Nat} (digit : value? c = some d) :
    d < 16 ∧ c.toNat < 128 := by
  unfold value? at digit
  simp only [Char.le_def, UInt32.le_iff_toNat_le, Char.toNat_val] at digit
  have codes : '0'.toNat = 48 ∧ '9'.toNat = 57 ∧ 'a'.toNat = 97 ∧ 'f'.toNat = 102 ∧
    'A'.toNat = 65 ∧ 'F'.toNat = 70 := by decide
  split_ifs at digit <;> cases digit <;> omega

/-- Only characters of ASCII have a hexadecimal digit as lower-case form. -/
theorem lt_of_toLower {c : Char} {d : Nat} (small : d < 16)
    (digit : c.toLower = Nat.digitChar d) : c.toNat < 128 := by
  unfold Char.toLower at digit
  split_ifs at digit with upper
  · exact Nat.lt_of_le_of_lt (UInt32.le_iff_toNat_le.mp upper.2) (by decide)
  · rw [digit]
    interval_cases d <;> decide

/-- The digits of a value are its lower-case digit and the same letter in upper case. -/
theorem value?_eq_some_iff {c : Char} {d : Nat} :
    value? c = some d ↔ d < 16 ∧ c.toLower = Nat.digitChar d := by
  constructor
  · intro digit
    obtain ⟨small, ascii⟩ := lt_of_value? digit
    have same := value?_ascii c.toNat ascii d small
    rw [Char.ofNat_toNat] at same
    exact ⟨small, same.mp digit⟩
  · rintro ⟨small, digit⟩
    have same := value?_ascii c.toNat (lt_of_toLower small digit) d small
    rw [Char.ofNat_toNat] at same
    exact same.mpr digit

end Hex

end Parley
