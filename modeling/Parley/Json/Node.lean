import Parley.Json.Value
import Parley.Word

/-!
# JSON text as a tree

`Node` is what a JSON text says before anything is asked of it. It keeps what a value cannot hold
and some readers tolerate: a string literal that stands for no text is `text` with the fault found
in it, and a numeral keeps whether it has a fraction or an exponent.

`Json.ofNode?` is the value a tree stands for, and `Node.depth` how deep its containers nest.
-/

namespace Parley

/-- A numeral as written. `fraction` is the value and the number of its digits; `exponent` is its
sign (`true` for minus) and its value. -/
structure Numeral where
  negative : Bool
  whole : Nat
  fraction : Option (Nat × Nat) := none
  exponent : Option (Bool × Nat) := none
  deriving DecidableEq, Repr

/-- Why a string literal stands for no text. -/
inductive TextFault where
  /-- It holds bytes that are not UTF-8. -/
  | bytes
  /-- It holds half of a surrogate pair. -/
  | surrogate
  deriving DecidableEq, Repr

/-- A JSON text as a tree. A key that stands for no text is `none`. -/
inductive Node where
  | null
  | bool (value : Bool)
  | number (numeral : Numeral)
  | text (value : Except TextFault String)
  | array (items : List Node)
  | object (members : List (Option String × Node))
  deriving Inhabited

namespace Numeral

/-- The integer a numeral without fraction and exponent stands for. A minus sign before zero
makes it no integer. -/
def integer? (n : Numeral) : Option Int :=
  match n.fraction, n.exponent with
  | none, none =>
    if n.negative then (if n.whole = 0 then none else some (-(n.whole : Int)))
    else some n.whole
  | _, _ => none

/-- The largest exponent that a number may be written with. -/
def exponentLimit : Nat := 400

/-- The number a numeral stands for: an integer if it is written as one and fits 64 bits, signed
or unsigned, and a decimal otherwise. -/
def number? (n : Numeral) : Option Number :=
  let asDecimal : Option Number :=
    let (digits, places) := n.fraction.getD (0, 0)
    let size : Int := n.whole * Decimal.scale places + digits
    let mantissa := if n.negative then -size else size
    match n.exponent with
    | none => some (Number.ofDecimal mantissa places)
    | some (minus, e) =>
      if exponentLimit < e then none
      else if minus then some (Number.ofDecimal mantissa (places + e))
      else some (Number.ofDecimal (mantissa * Decimal.scale e) places)
  match n.integer? with
  | some i => if Word.isSigned64 i ∨ Word.isUnsigned64 i then some (.integer i) else asDecimal
  | none => asDecimal

end Numeral

namespace Node

mutual

/-- How many containers are open at the deepest place. -/
def depth : Node → Nat
  | .array items => depthItems items + 1
  | .object members => depthMembers members + 1
  | _ => 0

/-- The greatest depth among items. -/
def depthItems : List Node → Nat
  | [] => 0
  | item :: rest => max (depth item) (depthItems rest)

/-- The greatest depth among the values of members. -/
def depthMembers : List (Option String × Node) → Nat
  | [] => 0
  | (_, value) :: rest => max (depth value) (depthMembers rest)

end

/-- The text a literal stands for. -/
def text? : Node → Option String
  | .text value => value.toOption
  | _ => none

/-- The integer a numeral stands for. -/
def integer? : Node → Option Int
  | .number n => n.integer?
  | _ => none

/-- The items of an array. -/
def items? : Node → Option (List Node)
  | .array items => some items
  | _ => none

/-- The name of an alternative without content: a string, or an object whose only member has that
name and the value null. -/
def alternative? : Node → Option String
  | .text value => value.toOption
  | .object [(name, .null)] => name
  | _ => none

/-- The value read by `read`, or `none` for null. -/
def optional? {α : Type} (read : Node → Option α) : Node → Option (Option α)
  | .null => some none
  | node => (read node).map some

end Node

namespace Json

mutual

/-- The value a tree stands for, if all its literals stand for texts. -/
def ofNode? : Node → Option Json
  | .null => some .null
  | .bool value => some (.bool value)
  | .number numeral => numeral.number?.map .number
  | .text value => value.toOption.map .text
  | .array items => (ofItems? items).map .array
  | .object members => (ofMembers? members).map .object

/-- The values of items. -/
def ofItems? : List Node → Option (List Json)
  | [] => some []
  | item :: rest => do
    let value ← ofNode? item
    let values ← ofItems? rest
    pure (value :: values)

/-- The values of members. -/
def ofMembers? : List (Option String × Node) → Option (List (String × Json))
  | [] => some []
  | (key, value) :: rest => do
    let k ← key
    let v ← ofNode? value
    let others ← ofMembers? rest
    pure ((k, v) :: others)

end

end Json

end Parley
