/-!
# Machine words

The numbers that fit in words of 16 and 64 bits. Counts, seconds and ids that others read as words
are refused outside these ranges.
-/

namespace Parley.Word

/-- One more than the greatest number of 16 bits. -/
def limit16 : Nat := 65536

/-- One more than the greatest number of 64 bits. -/
def limit64 : Nat := 18446744073709551616

/-- One more than the greatest signed number of 64 bits. -/
def signedLimit64 : Nat := 9223372036854775808

/-- Whether an integer fits in a signed word of 64 bits. -/
def isSigned64 (n : Int) : Bool :=
  -signedLimit64 ≤ n ∧ n < signedLimit64

/-- Whether an integer fits in an unsigned word of 64 bits. -/
def isUnsigned64 (n : Int) : Bool :=
  0 ≤ n ∧ n < limit64

end Parley.Word
