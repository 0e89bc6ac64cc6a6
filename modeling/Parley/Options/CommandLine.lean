import Parley.Options.Value

/-!
# Command lines

`OptionSpec` declares an option. `CommandLine.read` collects what a list of arguments and the
environment give for each of them.

An option is written `--name value`, `--name=value`, `-n value`, `-nvalue` or `-n=value`. A value in
an argument of its own is looked at only when the next option begins or the arguments end, so that
an unknown argument after it is reported first. The environment counts for options that are not
given, in the order in which they are declared.
-/

namespace Parley

/-- An option of a program. -/
structure OptionSpec where
  long : String
  short : Option Char := none
  /-- The variable that stands in for the option. -/
  envName : Option String := none
  /-- Whether the option may be given more than once and its values are separated by commas. -/
  many : Bool := false
  check : ValueReader Unit

/-- What is given for each option, by its long name. -/
abbrev Given := List (String × List String)

/-- An option whose value is to come in an argument of its own, or has come. -/
structure Awaited where
  spec : OptionSpec
  value : Option String

/-- The arguments read so far: what is given, the option awaited, and whether options have been
ended by two hyphens. -/
structure CommandLine where
  given : Given := []
  awaited : Option Awaited := none
  ended : Bool := false

namespace CommandLine

/-- The flags that every program has: help and version. -/
def flags : List (String × Char × UsageError) :=
  [("help", 'h', .displayHelp), ("version", 'V', .displayVersion)]

/-- The parts of a text between commas. -/
def splitCommas (text : String) : List String :=
  (text.toList.splitOn ',').map String.ofList

/-- Adds values to what is given for an option. -/
def addValues (given : Given) (name : String) (values : List String) : Given :=
  match given with
  | [] => [(name, values)]
  | (n, vs) :: rest =>
    if n = name then (n, vs ++ values) :: rest else (n, vs) :: addValues rest name values

/-- Takes a value for an option. -/
def accept (c : CommandLine) (spec : OptionSpec) (value : String) :
    Except UsageError CommandLine := do
  if ¬ spec.many ∧ (c.given.lookup spec.long).isSome then throw .argumentConflict
  let values := if spec.many then splitCommas value else [value]
  values.forM spec.check
  pure { c with given := addValues c.given spec.long values }

/-- Takes the value that was awaited. -/
def resolve (c : CommandLine) : Except UsageError CommandLine :=
  match c.awaited with
  | none => .ok c
  | some ⟨_, none⟩ => .error .invalidValue
  | some ⟨spec, some value⟩ => { c with awaited := none }.accept spec value

/-- Begins an option, with the value attached to it if there is one. -/
def begin (c : CommandLine) (spec : OptionSpec) (attached : Option String) :
    Except UsageError CommandLine := do
  let c ← c.resolve
  match attached with
  | some value => c.accept spec value
  | none => pure { c with awaited := some ⟨spec, none⟩ }

/-- Answers a flag, once the option before it is taken. -/
def request (c : CommandLine) (flag : UsageError) : Except UsageError CommandLine := do
  let _ ← c.resolve
  throw flag

/-- An argument that begins with two hyphens. -/
def readLong (specs : List OptionSpec) (c : CommandLine) (text : List Char) :
    Except UsageError CommandLine :=
  let name := String.ofList (text.takeWhile (· ≠ '='))
  let attached := match text.dropWhile (· ≠ '=') with
    | _ :: value => some (String.ofList value)
    | [] => none
  match flags.lookup name with
  | some (_, flag) => if attached.isSome then .error .tooManyValues else c.request flag
  | none =>
    match specs.find? (·.long = name) with
    | some spec => c.begin spec attached
    | none => .error .unknownArgument

/-- An argument that begins with one hyphen: a letter, and what is attached to it. -/
def readShort (specs : List OptionSpec) (c : CommandLine) (letter : Char) (rest : List Char) :
    Except UsageError CommandLine :=
  match flags.find? (·.2.1 = letter) with
  | some (_, _, flag) => c.request flag
  | none =>
    match specs.find? (·.short = some letter) with
    | none => .error .unknownArgument
    | some spec =>
      c.begin spec <| match rest with
        | [] => none
        | '=' :: value => some (String.ofList value)
        | value => some (String.ofList value)

/-- An argument that is no option: the value awaited, if one is. -/
def readPlain (c : CommandLine) (text : List Char) : Except UsageError CommandLine :=
  match c.awaited with
  | some ⟨spec, none⟩ => .ok { c with awaited := some ⟨spec, some (String.ofList text)⟩ }
  | _ => .error .unknownArgument

/-- One argument. -/
def readArgument (specs : List OptionSpec) (c : CommandLine) (argument : String) :
    Except UsageError CommandLine :=
  if c.ended then .error .unknownArgument
  else
    match argument.toList with
    | ['-', '-'] => .ok { c with ended := true }
    | '-' :: '-' :: text => readLong specs c text
    | '-' :: letter :: rest => readShort specs c letter rest
    | text => c.readPlain text

/-- What the environment gives for an option that is not given otherwise. -/
def readVariable (environment : String → Option String) (c : CommandLine) (spec : OptionSpec) :
    Except UsageError CommandLine :=
  if (c.given.lookup spec.long).isSome then .ok c
  else
    match spec.envName.bind environment with
    | some value => c.accept spec value
    | none => .ok c

/-- What the arguments and the environment give for the options. -/
def read (specs : List OptionSpec) (environment : String → Option String)
    (arguments : List String) : Except UsageError Given := do
  let c ← arguments.foldlM (readArgument specs) {}
  let c ← c.resolve
  let c ← specs.foldlM (readVariable environment) c
  pure c.given

end CommandLine

/-- The value given for an option that takes one, or a value in its place. -/
def Given.value {α : Type} (given : Given) (name : String) (read : ValueReader α) (default : α) :
    α :=
  match (given.lookup name).bind List.head? with
  | some text => (read text).toOption.getD default
  | none => default

/-- The value given for an option that takes one, if it is given. -/
def Given.value? {α : Type} (given : Given) (name : String) (read : ValueReader α) : Option α :=
  ((given.lookup name).bind List.head?).bind fun text => (read text).toOption

end Parley
