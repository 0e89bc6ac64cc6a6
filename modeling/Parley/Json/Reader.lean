import Parley.Json.Node
import Parley.Text.Utf8

/-!
# Reading JSON text

The reader takes one symbol at a time and keeps the containers that are open on a stack, so its
depth is bounded by nothing but the text. A symbol is a character, or `none` for bytes that are
not UTF-8; these may stand only inside string literals, and make the literal stand for no text.

`Node.ofChars?` and `Node.ofBytes?` read one value, with blanks before and after it and nothing
else. `Json.parse?` reads a value of bounded depth.
-/

namespace Parley

namespace Json.Reader

/-! ### String literals -/

/-- Where a string literal stands with respect to escapes: between characters, after a backslash,
or inside the four digits of a code unit. -/
inductive Escape where
  | none
  | slash
  | unit (owed : Nat) (value : Nat)
  deriving DecidableEq, Repr

/-- A string literal being read: its characters, newest first; a high surrogate that waits for its
other half; the fault found in it, a lone surrogate before undecodable bytes. -/
structure Literal where
  reversed : List Char := []
  high : Option Nat := none
  fault : Option TextFault := none
  escape : Escape := .none
  deriving DecidableEq, Repr

namespace Literal

/-- A high surrogate that was not followed by its other half leaves no text. -/
def settle (l : Literal) : Literal :=
  match l.high with
  | none => l
  | some _ => { l with high := none, fault := some .surrogate }

/-- One character more. -/
def push (l : Literal) (c : Char) : Literal :=
  let l := l.settle
  { l with reversed := c :: l.reversed, escape := .none }

/-- One code unit more, from an escape. -/
def pushUnit (l : Literal) (unit : Nat) : Literal :=
  if 0xD800 ≤ unit ∧ unit < 0xDC00 then
    { l.settle with high := some unit, escape := .none }
  else if 0xDC00 ≤ unit ∧ unit < 0xE000 then
    match l.high with
    | some high =>
      let code := 0x10000 + (high - 0xD800) * 0x400 + (unit - 0xDC00)
      { l with reversed := Char.ofNat code :: l.reversed, high := none, escape := .none }
    | none => { l with fault := some .surrogate, escape := .none }
  else l.push (Char.ofNat unit)

/-- The character a one-letter escape stands for. -/
def escaped? : Char → Option Char
  | '"' => some '"'
  | '\\' => some '\\'
  | '/' => some '/'
  | 'b' => some '\x08'
  | 'f' => some '\x0c'
  | 'n' => some '\n'
  | 'r' => some '\r'
  | 't' => some '\t'
  | _ => none

/-- One symbol more, other than the closing quote. -/
def step (l : Literal) (symbol : Option Char) : Option Literal :=
  match l.escape, symbol with
  | .none, none =>
    let l := l.settle
    some { l with fault := l.fault <|> some .bytes }
  | .none, some c =>
    if c = '\\' then some { l with escape := .slash }
    else if c.toNat < 0x20 then none
    else some (l.push c)
  | .slash, some c =>
    if c = 'u' then some { l with escape := .unit 4 0 }
    else (escaped? c).map l.push
  | .unit owed value, some c => do
    let value := 16 * value + (← Hex.value? c)
    if owed ≤ 1 then pure (l.pushUnit value)
    else pure { l with escape := .unit (owed - 1) value }
  | _, none => none

/-- What the literal stands for, once closed. -/
def text (l : Literal) : Except TextFault String :=
  let l := l.settle
  match l.fault with
  | none => .ok (String.ofList l.reversed.reverse)
  | some fault => .error fault

end Literal

/-! ### Numerals -/

/-- The parts of a numeral, by what was read last. -/
inductive Phase where
  | sign
  | zero
  | whole
  | point
  | fraction
  | mark
  | markSign
  | exponent
  deriving DecidableEq, Repr

/-- Whether a numeral may end in a phase. -/
def Phase.complete : Phase → Bool
  | .zero | .whole | .fraction | .exponent => true
  | .sign | .point | .mark | .markSign => false

/-- The numeral extended by a character, if the character belongs to it. -/
def extend (phase : Phase) (n : Numeral) (c : Char) : Option (Phase × Numeral) :=
  let point := if c = '.' then some (.point, { n with fraction := some (0, 0) }) else none
  let mark :=
    if c = 'e' ∨ c = 'E' then some (.mark, { n with exponent := some (false, 0) }) else none
  match phase, Decimal.value? c with
  | .sign, some d => some (if d = 0 then .zero else .whole, { n with whole := d })
  | .sign, none => none
  | .zero, some _ => none
  | .zero, none => point <|> mark
  | .whole, some d => some (.whole, { n with whole := 10 * n.whole + d })
  | .whole, none => point <|> mark
  | .point, some d | .fraction, some d =>
    let (value, places) := n.fraction.getD (0, 0)
    some (.fraction, { n with fraction := some (10 * value + d, places + 1) })
  | .point, none => none
  | .fraction, none => mark
  | .mark, some d | .markSign, some d | .exponent, some d =>
    let (minus, value) := n.exponent.getD (false, 0)
    some (.exponent, { n with exponent := some (minus, 10 * value + d) })
  | .mark, none =>
    if c = '+' then some (.markSign, n)
    else if c = '-' then some (.markSign, { n with exponent := some (true, 0) })
    else none
  | .markSign, none | .exponent, none => none

/-! ### Values and containers -/

/-- A container that is open: the items or members read, newest first, and in an object the key
whose value is being read. -/
inductive Container where
  | array (items : List Node)
  | object (members : List (Option String × Node)) (key : Option String)

/-- What may come next. -/
inductive Mode where
  /-- A value. -/
  | value
  /-- A value, or the end of an array without items. -/
  | firstItem
  /-- A key, or the end of an object without members. -/
  | firstKey
  /-- A key. -/
  | key
  /-- The colon after a key. -/
  | colon
  /-- A comma or the end of the innermost container. -/
  | after
  /-- The rest of a string literal, a key if `isKey`. -/
  | literal (isKey : Bool) (read : Literal)
  /-- The rest of a numeral. -/
  | numeral (phase : Phase) (read : Numeral)
  /-- The letters left of a word, and what the word stands for. -/
  | word (rest : List Char) (node : Node)
  /-- Blanks only: the text has said its one value. -/
  | finished (root : Node)

/-- The reader between two symbols: the open containers, innermost first, and what may come. -/
structure State where
  stack : List Container
  mode : Mode

/-- The blanks between the parts of a text. -/
def isBlank (c : Char) : Bool :=
  c = ' ' || c = '\t' || c = '\n' || c = '\r'

/-- Gives a complete value to the innermost container, or makes it the value of the text. -/
def put (node : Node) : List Container → State
  | [] => ⟨[], .finished node⟩
  | .array items :: stack => ⟨.array (node :: items) :: stack, .after⟩
  | .object members key :: stack => ⟨.object ((key, node) :: members) key :: stack, .after⟩

/-- The first character of a value. -/
def start (stack : List Container) (c : Char) : Option State :=
  if c = '{' then some ⟨.object [] none :: stack, .firstKey⟩
  else if c = '[' then some ⟨.array [] :: stack, .firstItem⟩
  else if c = '"' then some ⟨stack, .literal false {}⟩
  else if c = '-' then some ⟨stack, .numeral .sign ⟨true, 0, none, none⟩⟩
  else if c = 't' then some ⟨stack, .word ['r', 'u', 'e'] (.bool true)⟩
  else if c = 'f' then some ⟨stack, .word ['a', 'l', 's', 'e'] (.bool false)⟩
  else if c = 'n' then some ⟨stack, .word ['u', 'l', 'l'] .null⟩
  else
    (extend .sign ⟨false, 0, none, none⟩ c).map fun (phase, n) => ⟨stack, .numeral phase n⟩

/-- The end of a container, if `c` ends the innermost one. -/
def close (stack : List Container) (c : Char) : Option State :=
  match stack with
  | .array items :: stack => if c = ']' then some (put (.array items.reverse) stack) else none
  | .object members _ :: stack =>
    if c = '}' then some (put (.object members.reverse) stack) else none
  | [] => none

/-- The character after a complete value. -/
def stepAfter (state : State) (c : Char) : Option State :=
  match state.mode, state.stack with
  | .finished _, _ => if isBlank c then some state else none
  | .after, stack =>
    if isBlank c then some state
    else if c = ',' then
      match stack with
      | .array _ :: _ => some ⟨stack, .value⟩
      | .object _ _ :: _ => some ⟨stack, .key⟩
      | [] => none
    else close stack c
  | _, _ => none

/-- A string literal that has been closed: a value, or the key of the innermost object. -/
def putLiteral (isKey : Bool) (l : Literal) (stack : List Container) : Option State :=
  if isKey then
    match stack with
    | .object members _ :: stack => some ⟨.object members l.text.toOption :: stack, .colon⟩
    | _ => none
  else some (put (.text l.text) stack)

/-- One character outside string literals. -/
def stepChar (state : State) (c : Char) : Option State :=
  let stack := state.stack
  match state.mode with
  | .value => if isBlank c then some state else start stack c
  | .firstItem => if isBlank c then some state else close stack c <|> start stack c
  | .firstKey =>
    if isBlank c then some state
    else if c = '"' then some ⟨stack, .literal true {}⟩
    else close stack c
  | .key =>
    if isBlank c then some state
    else if c = '"' then some ⟨stack, .literal true {}⟩
    else none
  | .colon =>
    if isBlank c then some state else if c = ':' then some ⟨stack, .value⟩ else none
  | .numeral phase n =>
    match extend phase n c with
    | some (phase, n) => some ⟨stack, .numeral phase n⟩
    | none => if phase.complete then stepAfter (put (.number n) stack) c else none
  | .word rest node =>
    match rest with
    | [] => none
    | [letter] => if c = letter then some (put node stack) else none
    | letter :: rest => if c = letter then some ⟨stack, .word rest node⟩ else none
  | .literal _ _ => none
  | .after | .finished _ => stepAfter state c

/-- One symbol. -/
def step (state : State) (symbol : Option Char) : Option State :=
  match state.mode, symbol with
  | .literal isKey l, symbol =>
    if l.escape = .none ∧ symbol = some '"' then putLiteral isKey l state.stack
    else (l.step symbol).map fun l => ⟨state.stack, .literal isKey l⟩
  | _, some c => stepChar state c
  | _, none => none

/-- The reader before the first symbol. -/
def State.initial : State := ⟨[], .value⟩

/-- The value of the text, if the text may end here. -/
def State.root? (state : State) : Option Node :=
  match state.mode, state.stack with
  | .finished root, _ => some root
  | .numeral phase n, [] => if phase.complete then some (.number n) else none
  | _, _ => none

end Json.Reader

namespace Node

/-- The one value that a sequence of symbols says. -/
def ofSymbols? (symbols : List (Option Char)) : Option Node :=
  (symbols.foldlM Json.Reader.step Json.Reader.State.initial).bind Json.Reader.State.root?

/-- The one value that a text says. -/
def ofChars? (text : List Char) : Option Node :=
  ofSymbols? (text.map some)

/-- The one value that a text in UTF-8 says. -/
def ofBytes? (bytes : List UInt8) : Option Node :=
  ofSymbols? (Utf8.symbols bytes)

end Node

namespace Json

/-- How many containers may be open at once in a text read as a value. -/
def depthLimit : Nat := 127

/-- The value that a text says. -/
def parse? (text : String) : Option Json := do
  let node ← Node.ofChars? text.toList
  if node.depth ≤ depthLimit then ofNode? node else none

end Json

end Parley
