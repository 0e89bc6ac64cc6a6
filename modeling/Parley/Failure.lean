import Parley.Text.Quoted

/-!
# Failures

`Failure` is what the chat rules, the stores and the token check fail with: a cause, and the text
of what brought it about if there is one. `Failure.message` is the text shown for it.
-/

namespace Parley

/-- What is wrong with a conversation or a message. -/
inductive EntityFault where
  | notFound
  | invalid
  | notParticipant
  | other (text : String)
  deriving DecidableEq, Repr

/-- What is wrong with an access token. -/
inductive AuthFault where
  | missingToken
  | invalidToken
  | expired
  | wrongTokenType
  deriving DecidableEq, Repr

/-- The cause of a failure. -/
inductive Cause where
  | entity (fault : EntityFault)
  | auth (fault : AuthFault)
  | config
  | other (text : String)
  deriving DecidableEq, Repr

/-- A cause with the text of what brought it about. -/
structure Failure where
  cause : Cause
  source : Option String := none
  deriving DecidableEq, Repr

/-- The name of a fault. -/
def EntityFault.label : EntityFault → String
  | .notFound => "NotFound"
  | .invalid => "Invalid"
  | .notParticipant => "NotParticipant"
  | .other text => "Other(" ++ Quoted.quote text ++ ")"

/-- The name of a fault. -/
def AuthFault.label : AuthFault → String
  | .missingToken => "MissingToken"
  | .invalidToken => "InvalidToken"
  | .expired => "Expired"
  | .wrongTokenType => "WrongTokenType"

/-- The name of a cause. -/
def Cause.label : Cause → String
  | .entity fault => "Entity(" ++ fault.label ++ ")"
  | .auth fault => "Auth(" ++ fault.label ++ ")"
  | .config => "Config"
  | .other text => "Other(" ++ Quoted.quote text ++ ")"

namespace Failure

/-- The name of the cause with the layer it belongs to. -/
def kindText (f : Failure) : String :=
  "Internal(" ++ f.cause.label ++ ")"

/-- The text of a failure: its cause, and its source in parentheses. -/
def message (f : Failure) : String :=
  "Domain Error: " ++ f.kindText
    ++ (match f.source with
      | some source => " (" ++ source ++ ")"
      | none => "")

/-- The reason given to others: the source, or the cause where there is none. -/
def reason (f : Failure) : String :=
  f.source.getD f.kindText

/-- A fault of a conversation or a message with its text. -/
def entity (fault : EntityFault) (text : String) : Failure :=
  ⟨.entity fault, some text⟩

/-- A fault of a token without further text. -/
def auth (fault : AuthFault) : Failure :=
  ⟨.auth fault, none⟩

/-- A fault of the configuration. -/
def config (text : String) : Failure :=
  ⟨.config, some text⟩

/-- A file or socket that could not be used. -/
def io (text : String) : Failure :=
  ⟨.other "I/O related error", some text⟩

/-- A text that is not the JSON it should be. -/
def json : Failure :=
  ⟨.other "JSON decoding related error", some "JSON error"⟩

end Failure

end Parley
