import Parley.Chat.Posting
import Parley.Hub.Basic

/-!
# The backend

A `Backend` is the directory, the messages and the hub together. Its message service stores what is
posted and tells the hub, which sends it to the connections of the participants.
`MessageService.post` and `ConversationSource.participantsOf` are the two services as the hub sees
them, with the errors it knows.
-/

namespace Parley

/-- Stores a posted text, and gives the stored message as a value. -/
def MessageService.post {σ : Type} (service : MessageService σ) (now : Timestamp)
    (conversation : ConversationId) (sender : UserId) (content : String) (state : σ) :
    Except PostError Json × σ :=
  let (result, state) := service.create now conversation sender content state
  match result with
  | .ok message => (.ok message.value, state)
  | .error failure => (.error (.ofFailure failure), state)

/-- The participants of a conversation, for a broadcast. -/
def ConversationSource.participantsOf (source : ConversationSource)
    (conversation : ConversationId) : Except LookupError (List UserId) :=
  match source.participants conversation with
  | .ok users => .ok users
  | .error failure => .error ⟨conversation, failure.message⟩

/-- Conversations, messages and connections. -/
structure Backend where
  directory : Directory
  messages : MessageLog
  hub : Hub

namespace Backend

/-- The backend without conversations, messages and connections. -/
def empty : Backend := ⟨.empty, .empty, .empty⟩

/-- Changes the hub. -/
def mapHub (b : Backend) (f : Hub → Hub) : Backend :=
  { b with hub := f b.hub }

/-- Sends a message to the participants of a conversation. -/
def broadcast (b : Backend) (conversation : ConversationId) (message : Json) :
    Delivery × Backend :=
  let (delivery, hub) :=
    b.hub.broadcast (b.directory.source.participantsOf conversation) conversation message
  (delivery, { b with hub })

/-- Tells the hub of a stored message. -/
def announce : Handler Backend
  | .messageCreated conversation message, b => (b.broadcast conversation message).2

/-- Stores a draft in the log. -/
def store (now : Timestamp) (draft : Draft) (b : Backend) : Except Failure (Message × Backend) :=
  let (message, messages) := b.messages.append draft now
  .ok (message, { b with messages })

/-- The message service of a backend. -/
def service : MessageService Backend where
  conversations b := b.directory.source
  store := store
  publisher := Publisher.empty.withHandler announce

/-- Stores a posted text and sends it out. -/
def post (b : Backend) (now : Timestamp) (conversation : ConversationId) (sender : UserId)
    (content : String) : Except PostError Json × Backend :=
  service.post now conversation sender content b

end Backend

end Parley
