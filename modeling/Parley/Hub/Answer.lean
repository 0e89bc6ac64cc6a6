import Parley.Failure
import Parley.Uuid

/-!
# What the hub is answered

The hub asks others who takes part in a conversation, and to store what a user posts. These are
the errors it is answered with.
-/

namespace Parley

/-- The participants of a conversation could not be found out. -/
structure LookupError where
  conversation : ConversationId
  reason : String
  deriving DecidableEq, Repr

/-- The text of an error. -/
def LookupError.text (e : LookupError) : String :=
  "failed to resolve participants of conversation " ++ e.conversation.text ++ ": " ++ e.reason

/-- A posted message was not stored. -/
inductive PostError where
  | notParticipant
  | invalidInput (reason : String)
  | internal (reason : String)
  deriving DecidableEq, Repr

namespace PostError

/-- The text of an error. -/
def text : PostError → String
  | .notParticipant => "sender is not a participant of the conversation"
  | .invalidInput reason => "invalid message: " ++ reason
  | .internal reason => "message creation failed: " ++ reason

/-- The name of an error. -/
def label : PostError → String
  | .notParticipant => "NotParticipant"
  | .invalidInput reason => "InvalidInput(" ++ Quoted.quote reason ++ ")"
  | .internal reason => "Internal(" ++ Quoted.quote reason ++ ")"

/-- The error that a failure of the chat rules is reported as. -/
def ofFailure (f : Failure) : PostError :=
  match f.cause with
  | .entity .notParticipant => .notParticipant
  | .entity .invalid | .entity .notFound => .invalidInput f.reason
  | _ => .internal f.reason

end PostError

end Parley
