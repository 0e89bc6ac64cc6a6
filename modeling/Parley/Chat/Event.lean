import Parley.Json.Value
import Parley.Uuid

/-!
# Events and publishers

An `Event` says what has been stored. A `Publisher` is the list of handlers that are told, in the
order they were added; a handler is a step of some state `σ`. `Publisher.withHandler` gives a new
publisher and leaves the old one as it was.
-/

namespace Parley

/-- A change that has been stored. -/
inductive Event where
  /-- A message of a conversation, as a value. -/
  | messageCreated (conversation : ConversationId) (message : Json)

/-- What is told of every event. -/
abbrev Handler (σ : Type) := Event → σ → σ

/-- Handlers in the order they were added. -/
structure Publisher (σ : Type) where
  handlers : List (Handler σ)

namespace Publisher

variable {σ : Type}

/-- The publisher without handlers. -/
def empty : Publisher σ := ⟨[]⟩

/-- By default nobody is told. -/
instance : Inhabited (Publisher σ) := ⟨empty⟩

/-- The publisher with one more handler, told after the others. -/
def withHandler (p : Publisher σ) (handler : Handler σ) : Publisher σ :=
  ⟨p.handlers ++ [handler]⟩

/-- How many handlers there are. -/
def handlerCount (p : Publisher σ) : Nat := p.handlers.length

/-- Tells every handler of an event. -/
def publish (p : Publisher σ) (event : Event) (state : σ) : σ :=
  p.handlers.foldl (fun state handler => handler event state) state

end Publisher

end Parley
