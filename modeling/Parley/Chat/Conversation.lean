import Parley.Json.Record
import Parley.Uuid

/-!
# Conversations

`Conversation` is a set of users who talk, by id. `Conversation.toJson` writes it and
`Conversation.ofNode?` reads it; a name that is absent is not written.
-/

namespace Parley

/-- Whether two users talk or a group does. -/
inductive ConversationKind where
  | oneOnOne
  | group
  deriving DecidableEq, Repr

namespace ConversationKind

/-- The name of a kind in JSON. -/
def tag : ConversationKind → String
  | .oneOnOne => "one_on_one"
  | .group => "group"

/-- The kind of a name. -/
def ofTag? (tag : String) : Option ConversationKind :=
  if tag = "one_on_one" then some .oneOnOne
  else if tag = "group" then some .group
  else none

/-- A kind is known by its tag. -/
theorem ofTag?_tag (kind : ConversationKind) : ofTag? kind.tag = some kind := by
  cases kind <;> decide

end ConversationKind

/-- A conversation and the users who take part in it, in the order listed. -/
structure Conversation where
  id : ConversationId
  kind : ConversationKind
  name : Option String
  participants : List UserId
  deriving DecidableEq, Repr

namespace Conversation

/-- The fields of a conversation in their declared order. -/
def fieldNames : List String :=
  ["conversation_id", "type", "name", "participants"]

/-- A conversation as JSON, fields in their declared order. -/
def toJson (c : Conversation) : Json :=
  .object <|
    [("conversation_id", c.id.toJson), ("type", .text c.kind.tag)]
      ++ (c.name.toList.map fun name => ("name", .text name))
      ++ [("participants", .array (c.participants.map Uuid.toJson))]

/-- The conversation of a JSON record. -/
def ofNode? (node : Node) : Option Conversation := do
  let fields ← node.fields? fieldNames
  let id ← Fields.require? fields "conversation_id" Uuid.ofNode?
  let kind ← Fields.require? fields "type" fun n => n.alternative?.bind ConversationKind.ofTag?
  let name ← Fields.withDefault? fields "name" (Node.optional? Node.text?) none
  let participants ←
    Fields.require? fields "participants" fun n => n.items?.bind (·.mapM Uuid.ofNode?)
  pure { id, kind, name, participants }

end Conversation

end Parley
