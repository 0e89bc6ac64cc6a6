import Parley.Json.Node
import Parley.Text.Hex

/-!
# UUIDs

An id is a 128-bit word. `Uuid.text` is its canonical form, thirty-two lower-case digits in five
groups. `Uuid.parse?` reads that form in either case, the same digits without hyphens, and the
hyphenated form in braces or after `urn:uuid:`.
-/

namespace Parley

/-- A 128-bit identifier. -/
structure Uuid where
  bits : BitVec 128
  deriving DecidableEq, Repr, Inhabited

/-- Identity of an authenticated user. -/
abbrev UserId := Uuid

/-- Identity of a conversation. -/
abbrev ConversationId := Uuid

namespace Uuid

/-- The id whose bits are all zero. -/
def nil : Uuid := ⟨0⟩

/-- The place of an id in the order of their bits. -/
def index (id : Uuid) : Nat := id.bits.toNat

/-- Ids are ordered as the numbers that their bits stand for. -/
instance : LE Uuid := ⟨fun a b => a.index ≤ b.index⟩

instance : LT Uuid := ⟨fun a b => a.index < b.index⟩

instance (a b : Uuid) : Decidable (a ≤ b) := inferInstanceAs (Decidable (a.index ≤ b.index))

instance (a b : Uuid) : Decidable (a < b) := inferInstanceAs (Decidable (a.index < b.index))

/-- The `count` lowest hexadecimal digits of a number, most significant first. -/
def lowDigits (n : Nat) : (count : Nat) → List Char
  | 0 => []
  | count + 1 => Nat.digitChar (n / 16 ^ count % 16) :: lowDigits n count

/-- The thirty-two digits of an id. -/
def digits (id : Uuid) : List Char :=
  lowDigits id.index 32

/-- The places of the hyphens among the digits: how many digits each group has. -/
def groups : List Nat := [8, 4, 4, 4, 12]

/-- Puts a hyphen between groups of digits of the given sizes. -/
def hyphenate : List Nat → List Char → List Char
  | [], text => text
  | [_], text => text
  | size :: sizes, text => text.take size ++ '-' :: hyphenate sizes (text.drop size)

/-- Takes the hyphens out from between groups of the given sizes. -/
def unhyphenate? : List Nat → List Char → Option (List Char)
  | [], text => some text
  | [_], text => some text
  | size :: sizes, text =>
    match text.drop size with
    | '-' :: rest => (unhyphenate? sizes rest).map (text.take size ++ ·)
    | _ => none

/-- The canonical form. -/
def chars (id : Uuid) : List Char :=
  hyphenate groups id.digits

/-- The canonical form as a string. -/
def text (id : Uuid) : String :=
  String.ofList id.chars

/-- The id of thirty-two digits. -/
def ofDigits? (text : List Char) : Option Uuid :=
  if text.length = 32 then (Hex.number? text).map fun n => ⟨BitVec.ofNat 128 n⟩ else none

/-- The id of digits in hyphenated groups. -/
def ofHyphenated? (text : List Char) : Option Uuid :=
  if text.length = 36 then (unhyphenate? groups text).bind ofDigits? else none

/-- The scheme that may stand before a hyphenated id, in either case. -/
def scheme : List Char := "urn:uuid:".toList

/-- The id written in one of the accepted forms. -/
def ofChars? (text : List Char) : Option Uuid :=
  match text with
  | '{' :: rest =>
    if rest.getLast? = some '}' then ofHyphenated? rest.dropLast else none
  | _ =>
    if (text.take scheme.length).map Char.toLower = scheme then
      ofHyphenated? (text.drop scheme.length)
    else ofDigits? text <|> ofHyphenated? text

/-- The id written in one of the accepted forms. -/
def parse? (text : String) : Option Uuid :=
  ofChars? text.toList

/-- The id written as a JSON string. -/
def ofNode? (node : Node) : Option Uuid :=
  node.text?.bind parse?

/-- An id as JSON. -/
def toJson (id : Uuid) : Json :=
  .text id.text

end Uuid

end Parley
