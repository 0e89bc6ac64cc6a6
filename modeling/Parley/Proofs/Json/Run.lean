import Parley.Json.Reader

/-!
# Runs of the reader

`Reader.run` is the reader after a whole text. After the text of a value the value is held
(`Reader.Holds`): it has been given to the innermost container, or it is a numeral that the next
symbol will end. Either way what follows finds the same state (`Holds.step_delimiter`).
-/

namespace Parley

namespace Json.Reader

/-- The reader after a text. -/
def run (state : State) (text : List Char) : Option State :=
  (text.map some).foldlM step state

/-- An empty text leaves a state as it is. -/
@[simp]
theorem run_nil (state : State) : run state [] = some state := rfl

/-- A text is read from its first character on. -/
@[simp]
theorem run_cons (state : State) (c : Char) (rest : List Char) :
    run state (c :: rest) = (step state (some c)).bind (run · rest) := rfl

/-- Two texts are read one after the other. -/
theorem run_append (state : State) (xs ys : List Char) :
    run state (xs ++ ys) = (run state xs).bind (run · ys) := by
  simp [run, List.foldlM_append]

/-- A text that leads to a state may be read first. -/
theorem run_append_of_eq {state next : State} {xs ys : List Char}
    (read : run state xs = some next) : run state (xs ++ ys) = run next ys := by
  simp [run_append, read]

/-! ### Values held -/

/-- A value has been read: given to the innermost container, or a numeral that the next symbol
ends. -/
inductive Holds (node : Node) (stack : List Container) : State → Prop where
  | given : Holds node stack (put node stack)
  | numeral {phase : Phase} {n : Numeral} (complete : phase.complete) (same : node = .number n) :
    Holds node stack ⟨stack, .numeral phase n⟩

/-- The characters that may follow a value. -/
def delimiters : List Char := [',', ']', '}', ' ', '\t', '\n', '\r']

/-- No numeral goes on with a comma, a closing bracket or a blank. -/
theorem extend_delimiter {phase : Phase} (complete : phase.complete) (n : Numeral) {c : Char}
    (delimiter : c ∈ delimiters) : extend phase n c = none := by
  have other : ∀ c ∈ delimiters, Decimal.value? c = none ∧ c ≠ '.' ∧ ¬(c = 'e' ∨ c = 'E') := by
    simp [delimiters, Decimal.value?]
  obtain ⟨noDigit, noPoint, noMark⟩ := other c delimiter
  cases phase with
  | zero | whole | fraction | exponent => simp [extend, noDigit, noPoint, noMark]
  | sign | point | mark | markSign => cases complete

/-- What follows a value finds the value given to the innermost container. -/
theorem Holds.step_delimiter {node : Node} {stack : List Container} {state : State}
    (held : Holds node stack state) {c : Char} (delimiter : c ∈ delimiters) :
    step state (some c) = stepAfter (put node stack) c := by
  cases held with
  | given =>
    match stack with
    | [] => rfl
    | .array _ :: _ => rfl
    | .object _ _ :: _ => rfl
  | numeral complete same =>
    simp [step, stepChar, extend_delimiter complete _ delimiter, complete, same]

/-- A text may end with the value it has said. -/
theorem Holds.root? {node : Node} {state : State} (held : Holds node [] state) :
    state.root? = some node := by
  cases held with
  | given => rfl
  | numeral complete same => simp [State.root?, complete, same]

end Json.Reader

end Parley
