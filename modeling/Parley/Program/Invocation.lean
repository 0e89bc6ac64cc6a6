import Parley.Options.CommandLine
import Parley.Options.DotEnv

/-!
# Invocations

How a program is invoked: its arguments, the environment, and the files it can read. The file `.env`
sets variables that the environment does not set.
-/

namespace Parley

/-- The arguments, the environment and the files of a program. -/
structure Invocation where
  arguments : List String
  environment : DotEnv.Environment
  /-- The bytes of a file, or why it cannot be read. -/
  file : String → Except String (List UInt8)

/-- The environment with what the file `.env` adds to it. -/
def Invocation.variables (i : Invocation) : DotEnv.Environment :=
  match i.file ".env" with
  | .ok bytes => DotEnv.loadBytes i.environment bytes
  | .error _ => i.environment

/-- The value of a variable. -/
def Invocation.value? (i : Invocation) (name : String) : Option String :=
  i.variables.lookup name

/-- The exit code where a command line is not acted on: asking for information is no error. -/
def UsageError.exitCode (e : UsageError) : Nat :=
  if e.isRequest then 0 else 2

end Parley
