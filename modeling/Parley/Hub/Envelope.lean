import Parley.Json.Value
import Parley.Uuid

/-!
# Envelopes

An `Envelope` is a message on its way to connections. `Envelope.payload` is the text that is sent:
an object with the type and the message.
-/

namespace Parley

/-- A message of a conversation on its way to connections. -/
structure Envelope where
  conversation : ConversationId
  /-- The message with sorted keys. -/
  message : Json

namespace Envelope

/-- The envelope of a message. That the message cannot be written out is left out, here and where
envelopes are made: it cannot happen for a JSON value. -/
def newMessage (conversation : ConversationId) (message : Json) : Envelope :=
  ⟨conversation, message.canonical⟩

/-- What is sent, as a value. -/
def wire (e : Envelope) : Json :=
  .object [("type", .text "new_message"), ("message", e.message)]

/-- What is sent, as a text. -/
def payload (e : Envelope) : String :=
  e.wire.compact

end Envelope

end Parley
