import Parley.Chat.Directory
import Parley.Json.Reader

/-!
# Seed files

A seed file lists conversations to put into the directory. `Seed.ofChars?` reads its text, and
`Seed.load` adds what a file lists, all of it or, where the file cannot be read, nothing.
-/

namespace Parley

/-- The conversations that a seed file lists. -/
structure Seed where
  conversations : List Conversation

namespace Seed

/-- The seed of a JSON record. -/
def ofNode? (node : Node) : Option Seed := do
  let fields ← node.fields? ["conversations"]
  let conversations ← Fields.withDefault? fields "conversations"
    (fun n => n.items?.bind (·.mapM Conversation.ofNode?)) []
  pure ⟨conversations⟩

/-- The seed that a text says. -/
def ofChars? (text : List Char) : Option Seed :=
  (Node.ofChars? text).bind ofNode?

/-- Adds the conversations of a seed, and says how many it lists. -/
def apply (seed : Seed) (directory : Directory) : Nat × Directory :=
  (seed.conversations.length, directory.insertAll seed.conversations)

/-- The seed in a file that holds the given bytes, or that could not be opened for the reason
given. -/
def ofFile (contents : Except String (List UInt8)) : Except Failure Seed :=
  match contents with
  | .error reason => .error (.io reason)
  | .ok bytes =>
    match Utf8.decode? bytes with
    | none => .error (.io "stream did not contain valid UTF-8")
    | some text => (ofChars? text.toList).elim (.error .json) .ok

/-- Adds the conversations of a seed file, and says how many it lists. -/
def load (contents : Except String (List UInt8)) (directory : Directory) :
    Except Failure Nat × Directory :=
  match ofFile contents with
  | .error failure => (.error failure, directory)
  | .ok seed =>
    let (count, directory) := seed.apply directory
    (.ok count, directory)

end Seed

end Parley
