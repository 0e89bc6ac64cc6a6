import Parley.Json.Record
import Parley.Time.Timestamp
import Parley.Uuid
import Parley.Word

/-!
# Messages

`Message` is a message as it is stored and delivered. `Message.toJson` writes its fields in their
declared order, `Message.value` is the same as a value with sorted keys, and `Message.ofNode?`
reads it.
-/

namespace Parley

/-- What a message consists of. -/
inductive MessageKind where
  | text
  deriving DecidableEq, Repr

namespace MessageKind

/-- The name of a kind in JSON. -/
def tag : MessageKind → String
  | .text => "text"

/-- The kind of a name. -/
def ofTag? (tag : String) : Option MessageKind :=
  if tag = "text" then some .text else none

end MessageKind

/-- A message that has not been stored. -/
structure Draft where
  conversation : ConversationId
  sender : UserId
  content : String
  kind : MessageKind := .text
  deriving DecidableEq, Repr

/-- A stored message. -/
structure Message where
  id : Int
  conversation : ConversationId
  sender : UserId
  content : String
  kind : MessageKind
  createdAt : Timestamp
  deriving DecidableEq, Repr

namespace Message

/-- The fields of a message in their declared order. -/
def fieldNames : List String :=
  ["message_id", "conversation_id", "sender_id", "content", "type", "created_at"]

/-- A message as JSON, fields in their declared order. -/
def toJson (m : Message) : Json :=
  .object [("message_id", .integer m.id), ("conversation_id", m.conversation.toJson),
    ("sender_id", m.sender.toJson), ("content", .text m.content), ("type", .text m.kind.tag),
    ("created_at", .text m.createdAt.text)]

/-- A message as a value with sorted keys. -/
def value (m : Message) : Json :=
  m.toJson.canonical

/-- The message id of a numeral, which has sixty-four bits with a sign. -/
def idOfNode? (node : Node) : Option Int := do
  let n ← node.integer?
  if Word.isSigned64 n then pure n else none

/-- The message of a JSON record. -/
def ofNode? (node : Node) : Option Message := do
  let fields ← node.fields? fieldNames
  let id ← Fields.require? fields "message_id" idOfNode?
  let conversation ← Fields.require? fields "conversation_id" Uuid.ofNode?
  let sender ← Fields.require? fields "sender_id" Uuid.ofNode?
  let content ← Fields.require? fields "content" Node.text?
  let kind ← Fields.require? fields "type" fun n => n.alternative?.bind MessageKind.ofTag?
  let createdAt ← Fields.require? fields "created_at" fun n => n.text?.bind Timestamp.parse?
  pure { id, conversation, sender, content, kind, createdAt }

end Message

/-- The messages stored so far, oldest first. -/
structure MessageLog where
  messages : List Message

namespace MessageLog

/-- The log without messages. -/
def empty : MessageLog := ⟨[]⟩

/-- The messages of a conversation, oldest first. -/
def ofConversation (log : MessageLog) (id : ConversationId) : List Message :=
  log.messages.filter (·.conversation = id)

/-- Stores a draft under the next id; ids count from one. -/
def append (log : MessageLog) (draft : Draft) (now : Timestamp) : Message × MessageLog :=
  let message : Message :=
    { id := log.messages.length + 1, conversation := draft.conversation, sender := draft.sender,
      content := draft.content, kind := draft.kind, createdAt := now }
  (message, ⟨log.messages ++ [message]⟩)

end MessageLog

end Parley
