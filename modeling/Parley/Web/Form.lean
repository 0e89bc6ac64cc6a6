import Parley.Text.Hex
import Parley.Text.Utf8

/-!
# Form encoding

The query of an address as a list of fields. Fields are separated by `&` and empty ones skipped; a
field is a name and a value with the first `=` between them, or a name alone. In both, `+` is a
space and `%` with two hexadecimal digits a byte.

`Form.decode` reads a name or a value: any other `%` stays as it is, and what is not UTF-8 becomes
U+FFFD. `Form.encode` escapes every byte of a text, which is one of its written forms.
-/

namespace Parley.Form

/-- The byte `%`, which begins an escape. -/
def percent : UInt8 := 0x25

/-- The byte of an escape, given the three bytes where it would stand. -/
def escaped? (lead high low : UInt8) : Option UInt8 :=
  if lead = percent then
    (Hex.number? [Char.ofNat high.toNat, Char.ofNat low.toNat]).map UInt8.ofNat
  else none

/-- The bytes that are meant: an escape is one byte, any other byte is itself. -/
def unescape : List UInt8 → List UInt8
  | a :: b :: c :: rest =>
    match escaped? a b c with
    | some byte => byte :: unescape rest
    | none => a :: unescape (b :: c :: rest)
  | bytes => bytes

/-- The byte that is meant before escapes are looked at: `+` is a space. -/
def plusAsSpace (byte : UInt8) : UInt8 :=
  if byte = 0x2b then 0x20 else byte

/-- A name or a value as text. -/
def decode (bytes : List UInt8) : String :=
  String.ofList (Utf8.lossy (unescape (bytes.map plusAsSpace)))

/-- A field: what stands before the first `=`, and what stands after it. -/
def field (bytes : List UInt8) : String × String :=
  (decode (bytes.takeWhile (· ≠ 0x3d)), decode ((bytes.dropWhile (· ≠ 0x3d)).drop 1))

/-- The fields of a query, in order. -/
def fields (query : List UInt8) : List (String × String) :=
  ((query.splitOn 0x26).filter (· ≠ [])).map field

/-- The value of a field, if exactly one field has its name. -/
def only? (fields : List (String × String)) (name : String) : Option String :=
  match fields.filter (·.1 = name) with
  | [(_, value)] => some value
  | _ => none

/-- The escape of a byte. -/
def escape (byte : UInt8) : List Char :=
  '%' :: Hex.byteDigits byte

/-- A text with every byte escaped. -/
def encode (text : String) : List Char :=
  (Utf8.encode text.toList).flatMap escape

end Parley.Form
