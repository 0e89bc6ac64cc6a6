import Parley.Json.Reader
import Parley.Json.Record
import Parley.Session.Allowance
import Parley.Uuid

/-!
# Requests of a peer

A text from the peer is a `Request` to post a message, or it is discarded. `Request.decide` says
which: the text must be JSON of a request, of the one type that is acted on, within the allowance,
with an id and a content. Only a text that reaches the allowance uses it up.
-/

namespace Parley

/-- What a peer asks for. -/
structure Request where
  type : String
  conversation : String
  content : String
  deriving DecidableEq, Repr

/-- What becomes of a text from the peer. -/
inductive Decision where
  /-- The text is no request. -/
  | undecodable
  /-- The request is of a type that is not acted on. -/
  | ignored
  /-- The allowance is used up. -/
  | rateLimited
  /-- The conversation is no id, or there is no content. -/
  | invalid
  /-- The content is to be posted. -/
  | post (conversation : ConversationId) (content : String)
  deriving DecidableEq, Repr

namespace Request

/-- The type of request that is acted on. -/
def sendMessage : String := "send_message"

/-- The request of a JSON record. -/
def ofNode? (node : Node) : Option Request := do
  let fields ← node.fields? ["type", "conversation_id", "content"]
  let type ← Fields.require? fields "type" Node.text?
  let conversation ← Fields.withDefault? fields "conversation_id" Node.text? ""
  let content ← Fields.withDefault? fields "content" Node.text? ""
  pure { type, conversation, content }

/-- The request that a text says. -/
def parse? (text : String) : Option Request :=
  (Node.ofChars? text.toList).bind ofNode?

/-- What is to be posted for a request that is within the allowance. -/
def target (r : Request) : Decision :=
  match Uuid.parse? r.conversation with
  | none => .invalid
  | some conversation => if r.content.isEmpty then .invalid else .post conversation r.content

/-- What becomes of a text that arrives at a given time, and the allowance that is left. -/
def decide (allowance : Allowance) (now : Duration) (text : String) : Decision × Allowance :=
  match parse? text with
  | none => (.undecodable, allowance)
  | some r =>
    if r.type ≠ sendMessage then (.ignored, allowance)
    else
      let (admitted, allowance) := allowance.attempt now
      (if admitted then r.target else .rateLimited, allowance)

end Request

end Parley
