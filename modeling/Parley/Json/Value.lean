import Parley.Text.Decimal
import Parley.Text.Hex

/-!
# JSON values

`Json` is a value of any shape; an object is the list of its members in the order written.
`Json.render` writes compact text in that order, and `Json.canonical` puts the members of every
object into the order of their keys, keeping the last of equal keys.

Numbers are integers or decimals, both exact. A decimal is written with at least one place.
-/

namespace Parley

/-- A number: an integer, or `mantissa` divided by ten to the power `places`. -/
inductive Number where
  | integer (value : Int)
  | decimal (mantissa : Int) (places : Nat)
  deriving DecidableEq, Repr, Inhabited

/-- A JSON value. -/
inductive Json where
  | null
  | bool (value : Bool)
  | number (value : Number)
  | text (value : String)
  | array (items : List Json)
  | object (members : List (String × Json))
  deriving Repr, Inhabited

namespace Number

/-- Takes zeros off the end of a decimal while more than one place is left; `spare` bounds how
many may go. -/
def trim (mantissa : Int) : (spare : Nat) → Int × Nat
  | 0 => (mantissa, 1)
  | spare + 1 => if mantissa % 10 = 0 then trim (mantissa / 10) spare else (mantissa, spare + 2)

/-- The decimal with the fewest places, at least one, that has the given value. -/
def ofDecimal (mantissa : Int) : (places : Nat) → Number
  | 0 => .decimal (10 * mantissa) 1
  | places + 1 =>
    let (m, p) := trim mantissa places
    .decimal m p

/-- The digits of a number. -/
def render : Number → List Char
  | .integer value => Decimal.signed value
  | .decimal mantissa places =>
    let size := mantissa.natAbs
    (if mantissa < 0 then ['-'] else []) ++ Decimal.digits (size / Decimal.scale places)
      ++ '.' :: Decimal.padded places (size % Decimal.scale places)

end Number

namespace Json

/-- An integer value. -/
def integer (value : Int) : Json :=
  .number (.integer value)

/-- A character as it stands in a string literal: only the quote, the backslash and the controls
below U+0020 are escaped. -/
def charText (c : Char) : List Char :=
  match c with
  | '"' => ['\\', '"']
  | '\\' => ['\\', '\\']
  | '\n' => ['\\', 'n']
  | '\r' => ['\\', 'r']
  | '\t' => ['\\', 't']
  | '\x08' => ['\\', 'b']
  | '\x0c' => ['\\', 'f']
  | c =>
    if c.toNat < 0x20 then
      ['\\', 'u', '0', '0', Nat.digitChar (c.toNat / 16), Nat.digitChar (c.toNat % 16)]
    else [c]

/-- A string literal. -/
def quote (text : String) : List Char :=
  '"' :: text.toList.flatMap charText ++ ['"']

mutual

/-- The compact text of a value, members in the order of the list. -/
def render : Json → List Char
  | .null => "null".toList
  | .bool true => "true".toList
  | .bool false => "false".toList
  | .number value => value.render
  | .text value => quote value
  | .array items => '[' :: renderItems items
  | .object members => '{' :: renderMembers members

/-- The items of an array and the closing bracket. -/
def renderItems : List Json → List Char
  | [] => [']']
  | [item] => render item ++ [']']
  | item :: rest => render item ++ ',' :: renderItems rest

/-- The members of an object and the closing brace. -/
def renderMembers : List (String × Json) → List Char
  | [] => ['}']
  | [(key, value)] => quote key ++ ':' :: (render value ++ ['}'])
  | (key, value) :: rest => quote key ++ ':' :: (render value ++ ',' :: renderMembers rest)

end

/-- The compact text of a value as a string. -/
def compact (value : Json) : String :=
  String.ofList value.render

/-- Puts a member in its place among members sorted by key, instead of one with the same key. -/
def insertMember (key : String) (value : Json) : List (String × Json) → List (String × Json)
  | [] => [(key, value)]
  | (k, v) :: rest =>
    if key < k then (key, value) :: (k, v) :: rest
    else if key = k then (key, value) :: rest
    else (k, v) :: insertMember key value rest

mutual

/-- The value with the members of every object sorted by key, the last of equal keys kept. -/
def canonical : Json → Json
  | .array items => .array (canonicalItems items)
  | .object members => .object (canonicalMembers [] members)
  | value => value

/-- Each item in canonical form. -/
def canonicalItems : List Json → List Json
  | [] => []
  | item :: rest => canonical item :: canonicalItems rest

/-- The members read so far, with the rest put in their places. -/
def canonicalMembers (sorted : List (String × Json)) :
    List (String × Json) → List (String × Json)
  | [] => sorted
  | (key, value) :: rest => canonicalMembers (insertMember key (canonical value) sorted) rest

end

end Json

end Parley
