import Parley.Text.Blank
import Parley.Text.Utf8

/-!
# Environment files

An environment file sets variables, a line each: a key, an equals sign and a value. Comments begin
with a number sign. A value may be quoted; within single quotes everything stands for itself, and
elsewhere a backslash escapes and a dollar sign names a variable whose value is put in. A quoted
value may go over several lines. A variable that is already set keeps its value, and reading stops
at the first line that is in error.
-/

namespace Parley.DotEnv

/-- Variables and their values. -/
abbrev Environment := List (String × String)

/-! ### Lines -/

/-- Where a logical line stands at a character, with respect to quotes and escapes. -/
inductive LineState where
  | complete
  | blank
  | escape
  | weak
  | weakEscape
  | strong
  | strongEscape
  deriving DecidableEq, Repr

/-- The state after one character; `none` where a comment begins. -/
def LineState.next? (s : LineState) (c : Char) : Option LineState :=
  match s with
  | .escape => some .complete
  | .weakEscape => some .weak
  | .strongEscape => some .strong
  | .weak => some (if c = '\\' then .weakEscape else if c = '"' then .complete else .weak)
  | .strong => some (if c = '\\' then .strongEscape else if c = '\'' then .complete else .strong)
  | .blank | .complete =>
    if s = .blank ∧ c = '#' then none
    else if s = .complete ∧ Blank.isBlank c ∧ c ≠ '\n' ∧ c ≠ '\r' then some .blank
    else if c = '\\' then some .escape
    else if c = '"' then some .weak
    else if c = '\'' then some .strong
    else some .complete

/-- Reads a physical line from a state on: the characters up to a comment, and the state at the
end, `none` if a comment ended it. -/
def scanLine : LineState → List Char → List Char × Option LineState
  | s, [] => ([], some s)
  | s, c :: rest =>
    match s.next? c with
    | none => ([], none)
    | some s =>
      let (text, last) := scanLine s rest
      (c :: text, last)

/-- The physical lines of a text, each with its line feed. -/
def physicalLines (text : List Char) : List (List Char) :=
  let (current, done) := text.foldl
    (fun (current, done) c =>
      if c = '\n' then ([], (c :: current).reverse :: done) else (c :: current, done))
    (([] : List Char), ([] : List (List Char)))
  (if current.isEmpty then done else current.reverse :: done).reverse

/-- A line without the line feed, and the carriage return before it, at its end. -/
def chomp (line : List Char) : List Char :=
  match line.reverse with
  | '\n' :: '\r' :: rest => rest.reverse
  | '\n' :: rest => rest.reverse
  | _ => line

/-- The logical lines of a text, from a line begun on; `none` for one that the end cuts off. -/
def logicalLines (begun : List Char) (state : LineState) :
    List (List Char) → List (Option (List Char))
  | [] => if state = .complete then [] else [none]
  | line :: rest =>
    let whole := begun ++ line
    if (Blank.skip whole).head? = some '#' then some [] :: logicalLines [] .complete rest
    else
      match scanLine state line with
      | (_, some .complete) => some (chomp whole) :: logicalLines [] .complete rest
      | (_, some state) => logicalLines whole state rest
      | (text, none) => some (begun ++ text) :: logicalLines [] .complete rest

/-! ### Values -/

/-- A variable being named in a value: after a dollar sign, or within braces after one. -/
structure Naming where
  braced : Bool := false
  reversed : List Char := []

/-- A value being read. -/
structure ValueState where
  strong : Bool := false
  weak : Bool := false
  escaped : Bool := false
  /-- A blank has come after the value; only a comment may follow. -/
  ending : Bool := false
  /-- The comment has begun. -/
  done : Bool := false
  naming : Option Naming := none
  reversed : List Char := []

namespace ValueState

/-- Adds a character to the value. -/
def push (v : ValueState) (c : Char) : ValueState :=
  { v with reversed := c :: v.reversed }

/-- Puts in the value of a variable, nothing if it is not set. -/
def substitute (environment : Environment) (v : ValueState) (name : List Char) : ValueState :=
  let value := (environment.lookup (String.ofList name.reverse)).getD ""
  { v with naming := none, reversed := value.toList.reverse ++ v.reversed }

/-- One character while a variable is named. -/
def stepNaming (environment : Environment) (v : ValueState) (n : Naming) (c : Char) :
    ValueState :=
  if c.isAlphanum then { v with naming := some { n with reversed := c :: n.reversed } }
  else if n.braced then
    if c = '}' then v.substitute environment n.reversed
    else { v with naming := some { n with reversed := c :: n.reversed } }
  else if c = '{' ∧ n.reversed = [] then { v with naming := some { n with braced := true } }
  else
    let v := v.substitute environment n.reversed
    if c = '$' then { v with naming := some {} } else v.push c

/-- The character that an escape stands for. -/
def escaped? (c : Char) : Option Char :=
  if c = 'n' then some '\n'
  else if c = '\\' ∨ c = '\'' ∨ c = '"' ∨ c = '$' ∨ c = ' ' then some c
  else none

/-- One character. -/
def step (environment : Environment) (v : ValueState) (c : Char) : Option ValueState :=
  if v.done then some v
  else if v.ending then
    if c = ' ' ∨ c = '\t' then some v
    else if c = '#' then some { v with done := true }
    else none
  else if v.escaped then (escaped? c).map { v with escaped := false }.push
  else if v.strong then some (if c = '\'' then { v with strong := false } else v.push c)
  else
    match v.naming with
    | some n => some (v.stepNaming environment n c)
    | none =>
      if c = '$' then some { v with naming := some {} }
      else if c = '\\' then some { v with escaped := true }
      else if v.weak then some (if c = '"' then { v with weak := false } else v.push c)
      else if c = '\'' then some { v with strong := true }
      else if c = '"' then some { v with weak := true }
      else if c = ' ' ∨ c = '\t' then some { v with ending := true }
      else some (v.push c)

end ValueState

/-- The value that a text says. -/
def readValue (environment : Environment) (text : List Char) : Option String := do
  let v ← text.foldlM (ValueState.step environment) {}
  let naming := v.naming.getD {}
  if v.strong || v.weak || naming.braced then none
  pure (String.ofList (v.substitute environment naming.reversed).reversed.reverse)

/-! ### Assignments -/

/-- Whether a character may stand in a key after the first. -/
def isKeyChar (c : Char) : Bool :=
  c.isAlphanum || c = '_' || c = '.'

/-- A key and what follows it, without blanks between. -/
def readKey (text : List Char) : Option (String × List Char) :=
  match text with
  | c :: _ =>
    if c.isAlpha || c = '_' then
      some (String.ofList (text.takeWhile isKeyChar), Blank.skip (text.dropWhile isKeyChar))
    else none
  | [] => none

/-- A key and what follows its equals sign. The word `export` may stand before the key, and is a
key itself where an equals sign follows it. -/
def readAssignment (text : List Char) : Option (String × List Char) :=
  match readKey text with
  | some (key, '=' :: rest) => some (key, Blank.skip rest)
  | some ("export", rest) =>
    match readKey rest with
    | some (key, '=' :: rest) => some (key, Blank.skip rest)
    | _ => none
  | _ => none

/-- What a line sets: nothing if it is empty or a comment. -/
def readLine (environment : Environment) (line : List Char) : Option (Option (String × String)) :=
  let text := Blank.skip ((line.reverse.dropWhile Blank.isBlank).reverse)
  match text with
  | [] | '#' :: _ => some none
  | _ =>
    match readAssignment text with
    | none => none
    | some (key, []) => some (some (key, ""))
    | some (key, '#' :: _) => some (some (key, ""))
    | some (key, value) => (readValue environment value).map fun v => some (key, v)

/-- Sets a variable that is not set. -/
def define (environment : Environment) (key value : String) : Environment :=
  if (environment.lookup key).isSome then environment else (key, value) :: environment

/-- Sets what lines set, up to the first that is in error. -/
def loadLines (environment : Environment) : List (Option (List Char)) → Environment
  | some line :: rest =>
    match readLine environment line with
    | none => environment
    | some none => loadLines environment rest
    | some (some (key, value)) => loadLines (define environment key value) rest
  | _ => environment

/-- Sets what an environment file sets. -/
def load (environment : Environment) (text : String) : Environment :=
  let chars := match text.toList with
    | '\ufeff' :: rest => rest
    | chars => chars
  loadLines environment (logicalLines [] .complete (physicalLines chars))

/-- The text of a file up to the line with its first undecodable byte. -/
def decodableLines (bytes : List UInt8) : List Char :=
  let symbols := Utf8.symbols bytes
  let text := (symbols.takeWhile Option.isSome).filterMap id
  if symbols.all Option.isSome then text else (text.reverse.dropWhile (· ≠ '\n')).reverse

/-- Sets what the bytes of an environment file set. -/
def loadBytes (environment : Environment) (bytes : List UInt8) : Environment :=
  load environment (String.ofList (decodableLines bytes))

end Parley.DotEnv
