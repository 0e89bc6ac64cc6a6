import Parley.Chat.Directory
import Parley.Chat.Event
import Parley.Chat.Message

/-!
# Posting messages

`MessageService` stores what users post and tells of it. A post is refused unless its sender takes
part in the conversation and its text, trimmed, is neither empty nor too long. What is stored is
the trimmed text, and only a stored message is announced.
-/

namespace Parley

/-- The greatest number of characters of a message. -/
def maxContentLength : Nat := 64 * 1024

/-- The characters that a posted text is trimmed by. -/
def isTrimmed (c : Char) : Bool :=
  c = ' ' || c = '\t' || c = '\n' || c = '\r'

/-- A posted text without spaces, tabs and line breaks at its ends. -/
def trimContent (content : String) : String :=
  String.ofList (Blank.trimBy isTrimmed content.toList)

/-- The draft of a posted text, if it may be stored. -/
def draftOf (source : ConversationSource) (conversation : ConversationId) (sender : UserId)
    (content : String) : Except Failure Draft := do
  source.ensureParticipant conversation sender
  let content := trimContent content
  if content.isEmpty then throw (.entity .invalid "message content required")
  if maxContentLength < content.length then throw (.entity .invalid "message too long")
  pure { conversation, sender, content }

/-- A place where messages are stored, as a part of some state, and whom to tell. -/
structure MessageService (σ : Type) where
  /-- The conversations in a state. -/
  conversations : σ → ConversationSource
  /-- Stores a draft at a given time. -/
  store : Timestamp → Draft → σ → Except Failure (Message × σ)
  /-- Who is told of a stored message. -/
  publisher : Publisher σ

/-- Checks, stores and announces a posted text. That a stored message has no JSON value is left out:
`Message.value` gives one for every message, so what is stored is announced. -/
def MessageService.create {σ : Type} (service : MessageService σ) (now : Timestamp)
    (conversation : ConversationId) (sender : UserId) (content : String) (state : σ) :
    Except Failure Message × σ :=
  match draftOf (service.conversations state) conversation sender content with
  | .error failure => (.error failure, state)
  | .ok draft =>
    match service.store now draft state with
    | .error failure => (.error failure, state)
    | .ok (message, state) =>
      (.ok message,
        service.publisher.publish (.messageCreated conversation message.value) state)

end Parley
