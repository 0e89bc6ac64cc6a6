import Parley.Text.Decimal
import Parley.Uuid
import Parley.Word

/-!
# Values of options

`UsageError` is what a command line can be refused for. The readers turn the text of an option into
its value, or refuse it with the error for that kind of value.
-/

namespace Parley

/-- Why a command line is not acted on. -/
inductive UsageError where
  | unknownArgument
  /-- A value is missing, or not one of those possible. -/
  | invalidValue
  /-- A value cannot be read, or is out of range. -/
  | valueValidation
  /-- An option is given twice. -/
  | argumentConflict
  /-- A flag has a value. -/
  | tooManyValues
  /-- An option that must be given is not. -/
  | missingRequired
  | displayHelp
  | displayVersion
  deriving DecidableEq, Repr

/-- The text shown for a command line that is not acted on. -/
def UsageError.text : UsageError → String
  | .unknownArgument => "error: unexpected argument"
  | .invalidValue => "error: a value is missing or not one of those possible"
  | .valueValidation => "error: a value cannot be read or is out of range"
  | .argumentConflict => "error: an option is given twice"
  | .tooManyValues => "error: a flag has a value"
  | .missingRequired => "error: a required option is not given"
  | .displayHelp => "Options are written --name value or --name=value."
  | .displayVersion => "0.1.0"

/-- Whether only information was asked for. -/
def UsageError.isRequest : UsageError → Bool
  | .displayHelp | .displayVersion => true
  | _ => false

/-- A reader of the text of an option. -/
abbrev ValueReader (α : Type) := String → Except UsageError α

namespace ValueReader

/-- Any text. -/
def text : ValueReader String := .ok

/-- A path, which is not empty. -/
def path : ValueReader String := fun s =>
  if s.isEmpty then .error .invalidValue else .ok s

/-- A count of 64 bits, no less than `least`. -/
def count (least : Nat) : ValueReader Nat := fun s =>
  match Decimal.count? s.toList with
  | some n => if least ≤ n ∧ n < Word.limit64 then .ok n else .error .valueValidation
  | none => .error .valueValidation

/-- A port: a number of 16 bits. A sign may stand before it, and minus zero is zero. -/
def port : ValueReader Nat := fun s =>
  let number := match s.toList with
    | '-' :: rest => (Decimal.number? rest).filter (· = 0)
    | chars => Decimal.count? chars
  match number with
  | some n => if n < Word.limit16 then .ok n else .error .valueValidation
  | none => .error .valueValidation

/-- One of a list of names, for the value that stands beside it. -/
def oneOf {α : Type} (names : List (String × α)) : ValueReader α := fun s =>
  (names.lookup s).elim (.error .invalidValue) .ok

/-- An id in one of its accepted forms. -/
def uuid : ValueReader Uuid := fun s =>
  (Uuid.parse? s).elim (.error .valueValidation) .ok

/-- Reads a text only to see whether it can be read. -/
def check {α : Type} (read : ValueReader α) : ValueReader Unit := fun s =>
  (read s).map fun _ => ()

end ValueReader

end Parley
