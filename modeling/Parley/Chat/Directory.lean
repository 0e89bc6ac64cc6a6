import Parley.Chat.Conversation
import Parley.Failure

/-!
# The directory of conversations

`Directory` holds at most one conversation of each id. `ConversationSource` is what others ask of
a directory: the conversation of an id, its participants in ascending order, and whether a user is
one of them. `ConversationSource.ensureParticipant` is the rule for who may post.
-/

namespace Parley

/-- Conversations, no two of the same id. -/
structure Directory where
  entries : List Conversation
  distinct : (entries.map Conversation.id).Nodup

namespace Directory

/-- The directory without conversations. -/
def empty : Directory := ⟨[], List.nodup_nil⟩

/-- The conversation of an id. -/
def find? (d : Directory) (id : ConversationId) : Option Conversation :=
  d.entries.find? (·.id = id)

/-- How many conversations there are. -/
def size (d : Directory) : Nat := d.entries.length

/-- Adds a conversation in place of one with the same id. -/
def insert (d : Directory) (c : Conversation) : Directory where
  entries := c :: d.entries.filter (·.id ≠ c.id)
  distinct := by
    rw [List.map_cons, List.nodup_cons]
    constructor
    · intro h
      obtain ⟨x, hx, hid⟩ := List.mem_map.mp h
      exact (of_decide_eq_true (List.mem_filter.mp hx).2) hid
    · exact d.distinct.sublist ((List.filter_sublist (l := d.entries)).map _)

/-- Adds conversations one after the other. -/
def insertAll (d : Directory) (cs : List Conversation) : Directory :=
  cs.foldl insert d

end Directory

/-- Puts an id into an ascending list of ids, unless it is there. -/
def insertAscending (id : Uuid) : List Uuid → List Uuid
  | [] => [id]
  | other :: rest =>
    if id < other then id :: other :: rest
    else if id = other then other :: rest
    else other :: insertAscending id rest

/-- The ids of a list in ascending order, each once. -/
def ascending (ids : List Uuid) : List Uuid :=
  ids.foldr insertAscending []

/-- What is asked of the conversations. -/
structure ConversationSource where
  /-- The conversation of an id. -/
  find : ConversationId → Except Failure Conversation
  /-- The users who take part, in ascending order. -/
  participants : ConversationId → Except Failure (List UserId)
  /-- Whether a user takes part. -/
  isParticipant : ConversationId → UserId → Except Failure Bool

/-- The failure of an id that no conversation has. -/
def conversationNotFound : Failure :=
  .entity .notFound "conversation not found"

/-- The failure of a user who does not take part. -/
def notAParticipant : Failure :=
  .entity .notParticipant "user is not a participant of this conversation"

namespace Directory

/-- Whether a user takes part in the conversation of an id. -/
def isParticipant (d : Directory) (id : ConversationId) (user : UserId) : Bool :=
  (d.find? id).any (user ∈ ·.participants)

/-- The answers of a directory. -/
def source (d : Directory) : ConversationSource where
  find id := (d.find? id).elim (.error conversationNotFound) .ok
  participants id :=
    (d.find? id).elim (.error conversationNotFound) fun c => .ok (ascending c.participants)
  isParticipant id user := .ok (d.isParticipant id user)

end Directory

/-- Fails unless the conversation is there and the user takes part in it. -/
def ConversationSource.ensureParticipant (source : ConversationSource) (id : ConversationId)
    (user : UserId) : Except Failure Unit := do
  let conversation ← source.find id
  if ← source.isParticipant conversation.id user then pure () else throw notAParticipant

end Parley
