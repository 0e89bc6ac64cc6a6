import Parley.Config
import Parley.Program.Invocation
import Parley.Token.Access

/-!
# Minting tokens

The tool that prints an access token for a user. It takes the options of the server, for the secret
and the lifetime of the token, and the id of the user, which must be given.
-/

namespace Parley

/-- What the tool prints. -/
inductive Minting where
  | token (text : String)
  | noSecret
  deriving DecidableEq, Repr

namespace Minting

/-- The option that names the user. -/
def userOption : OptionSpec where
  long := "user-id"
  check := ValueReader.uuid.check

/-- The options of the tool. -/
def specs : List OptionSpec :=
  userOption :: Config.specs

/-- Mints a token at a given second. -/
def run (i : Invocation) (now : Nat) : Except UsageError Minting := do
  let given ← CommandLine.read specs i.value? i.arguments
  match given.value? userOption.long .uuid with
  | none => throw .missingRequired
  | some user =>
    let config := Config.ofGiven given
    match config.secret with
    | none => pure .noSecret
    | some secret =>
      pure (.token ((AccessTokens.ofSecret secret).issue now config.tokenLifetimeSecs user))

end Minting

end Parley
