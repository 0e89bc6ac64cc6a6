/-!
# Blank characters

`Blank.isBlank` is the Unicode property White_Space, and `Blank.trimBy` takes the characters of a
class off both ends of a text.
-/

namespace Parley.Blank

/-- Whether a character has the Unicode property White_Space. -/
def isBlank (c : Char) : Bool :=
  let n := c.toNat
  (9 ≤ n && n ≤ 13) || n == 0x20 || n == 0x85 || n == 0xA0 || n == 0x1680
    || (0x2000 ≤ n && n ≤ 0x200A) || n == 0x2028 || n == 0x2029 || n == 0x202F
    || n == 0x205F || n == 0x3000

/-- The text from its first character that is not blank. -/
def skip (text : List Char) : List Char :=
  text.dropWhile isBlank

/-- The text without the characters of a class at both ends. -/
def trimBy (p : Char → Bool) (text : List Char) : List Char :=
  ((text.dropWhile p).reverse.dropWhile p).reverse

end Parley.Blank
