import Parley.Program.Minting
import Parley.Program.Startup
import Std.Time.DateTime.Timestamp

/-!
# Command line

The two programs: the server, and under the name `mint_token` the tool that mints access tokens.
Here the environment, the files and the clock are read and the lines are printed. Listening for
connections is not part of this library, so the server ends where it would begin to.
-/

namespace Parley.Main

/-- Why a file that does not exist cannot be read. -/
def missingFile : String := "No such file or directory (os error 2)"

/-- The bytes of a file, or why it cannot be read. -/
def readFile (path : String) : IO (Except String (List UInt8)) := do
  match ← (IO.FS.readBinFile path).toBaseIO with
  | .ok bytes => return .ok bytes.toList
  | .error (.noFileOrDirectory ..) => return .error missingFile
  | .error e => return .error (toString e)

/-- The variable that an entry of the environment sets. -/
def variableOf? (entry : List UInt8) : Option (String × String) := do
  let text ← Utf8.decode? entry
  match text.toList.dropWhile (· ≠ '=') with
  | _ :: value => some (String.ofList (text.toList.takeWhile (· ≠ '=')), String.ofList value)
  | [] => none

/-- The environment of this process. -/
def readEnvironment : IO DotEnv.Environment := do
  match ← readFile "/proc/self/environ" with
  | .ok block => return (block.splitOn 0).filterMap variableOf?
  | .error _ => return []

/-- The invocation of this process; of the files, those named can be read. -/
def invocation (arguments files : List String) : IO Invocation := do
  let environment ← readEnvironment
  let contents ← files.mapM fun path => return (path, ← readFile path)
  let file (path : String) := (contents.lookup path).getD (.error missingFile)
  return { arguments, environment, file }

/-- Says why a command line is not acted on. -/
def report (e : UsageError) : IO UInt32 := do
  if e.isRequest then IO.println e.text else IO.eprintln e.text
  return e.exitCode.toUInt32

/-- The server, up to the point where it would listen. -/
def serve (arguments : List String) : IO UInt32 := do
  let i ← invocation arguments [".env"]
  match Config.read i.value? arguments with
  | .error e => report e
  | .ok config =>
    let s := Startup.ofConfig (← invocation arguments config.seedFile.toList) config
    let s := if s.served.isSome then s.failToListen "listening is not supported" else s
    for (isError, line) in s.lines do
      if isError then IO.eprintln line else IO.println line
    return 1

/-- The tool that mints tokens. -/
def mint (arguments : List String) : IO UInt32 := do
  let now ← Std.Time.Timestamp.now
  match Minting.run (← invocation arguments [".env"]) now.toSecondsSinceUnixEpoch.val.toNat with
  | .error e => report e
  | .ok .noSecret => IO.eprintln Config.missingSecret; return 1
  | .ok (.token text) => IO.println text; return 0

end Parley.Main

/-- Runs the program of the name that the executable has. -/
def main (arguments : List String) : IO UInt32 := do
  let path ← IO.appPath
  if path.fileName = some "mint_token" then Parley.Main.mint arguments
  else Parley.Main.serve arguments
