import Parley.Proofs.Chat.Message
import Parley.Proofs.Chat.Posting
import Parley.Proofs.Text.Blank

/-!
# Posting in front of any handlers

A `Room` holds conversations and messages, and what has been told to whom: `Room.service` is the
message service of a publisher with any handlers, where each handler acts on a state of its own kind
and it is written down which handler was told of what.

`create_outcome` says what becomes of a posted text: which check it fails first, and that a text
which fails one leaves no trace; and otherwise which message is stored, and that each handler is
told of it once, in the order in which they were added.
-/

namespace Parley

/-- What handlers are told of a stored message. -/
def Message.event (m : Message) : Event := .messageCreated m.conversation m.value

/-- Conversations, messages, the state that handlers act on, and what they were told. -/
structure Room (τ : Type) where
  directory : Directory
  messages : MessageLog
  state : τ
  /-- Which handler, by its place among the others, was told of what; oldest first. -/
  told : List (Nat × Event) := []

namespace Room

variable {τ : Type}

/-- The room without conversations and messages. -/
def empty (state : τ) : Room τ := { directory := .empty, messages := .empty, state }

/-- What a handler has been told. -/
def record (r : Room τ) (place : Nat) : List Event :=
  (r.told.filter fun entry => entry.1 = place).map Prod.snd

/-- A handler is told of an event, which is written down under its place. -/
def tell (place : Nat) (handler : Handler τ) : Handler (Room τ) := fun event r =>
  { r with state := handler event r.state, told := r.told ++ [(place, event)] }

/-- Stores a draft. -/
def store (now : Timestamp) (draft : Draft) (r : Room τ) : Message × Room τ :=
  ((r.messages.append draft now).1, { r with messages := (r.messages.append draft now).2 })

/-- The publisher that tells the handlers of another, each in its place. -/
def publisher (p : Publisher τ) : Publisher (Room τ) :=
  ⟨p.handlers.mapIdx tell⟩

/-- The message service of a publisher. -/
def service (p : Publisher τ) : MessageService (Room τ) where
  conversations r := r.directory.source
  store now draft r := .ok (r.store now draft)
  publisher := publisher p

/-- The places after the first, counted from the second. -/
theorem tell_succ (first : Nat) :
    (fun i (handler : Handler τ) => tell (first + (i + 1)) handler) =
      fun i handler => tell (first + 1 + i) handler := by
  funext i handler
  congr 1
  omega

/-- Handlers are told one after the other: each changes the state in its turn, and is written down
once. -/
theorem foldl_tell (handlers : List (Handler τ)) (first : Nat) (event : Event) (r : Room τ) :
    (handlers.mapIdx fun i handler => tell (first + i) handler).foldl
        (fun r handler => handler event r) r =
      { r with
        state := handlers.foldl (fun state handler => handler event state) r.state
        told := r.told ++ (List.range' first handlers.length).map fun i => (i, event) } := by
  induction handlers generalizing first r with
  | nil => simp
  | cons handler rest ih =>
    rw [List.mapIdx_cons, List.foldl_cons, tell_succ, ih]
    simp [tell, List.range'_succ]

/-- Publishing tells every handler once, in their order. -/
theorem publish_publisher (p : Publisher τ) (event : Event) (r : Room τ) :
    (publisher p).publish event r =
      { r with
        state := p.publish event r.state
        told := r.told ++ (List.range p.handlerCount).map fun i => (i, event) } := by
  have told := foldl_tell p.handlers 0 event r
  simp only [Nat.zero_add] at told
  rw [List.range_eq_range']
  exact told

/-- A text that may be stored is stored and announced, and any other is refused. -/
theorem create_service (p : Publisher τ) (r : Room τ) (now : Timestamp)
    (conversation : ConversationId) (sender : UserId) (text : String) :
    (service p).create now conversation sender text r =
      match draftOf r.directory.source conversation sender text with
      | .error failure => (.error failure, r)
      | .ok draft =>
        (.ok (r.store now draft).1,
          (publisher p).publish (.messageCreated conversation (r.store now draft).1.value)
            (r.store now draft).2) :=
  (service p).create_of_store (fun _ _ _ => rfl) now conversation sender text r

end Room

/-- **The outcome of posting.** A publisher with any handlers, in any room, and a text posted there
by anybody. What is left of the text is its one part without spaces, tabs and line breaks at its
ends, with nothing but these around it. Then:

* where the conversation is unknown, or else the sender takes no part in it, or else what is left of
  the text is empty or longer than the limit, the text is refused, as not found, not a participant
  or invalid in this order, and nothing has changed, also of what handlers were told;
* otherwise the message is returned whose id is the next place in the log. It is put at the end of
  the log, each handler is told of it once, in their order, and nothing else has changed. -/
theorem create_outcome {τ : Type} (p : Publisher τ) (r : Room τ) (now : Timestamp)
    (conversation : ConversationId) (sender : UserId) (text : String) :
    let left := trimContent text
    let outcome := (Room.service p).create now conversation sender text r
    let stored : Message :=
      { id := r.messages.messages.length + 1, conversation, sender, content := left, kind := .text,
        createdAt := now }
    (∀ part : String, Blank.Trims isTrimmed text.toList part.toList ↔ part = left) ∧
    match r.directory.find? conversation with
    | none => outcome = (.error conversationNotFound, r) ∧
        conversationNotFound.cause = .entity .notFound
    | some found =>
      if sender ∉ found.participants then
        outcome = (.error notAParticipant, r) ∧ notAParticipant.cause = .entity .notParticipant
      else if left = "" ∨ 65536 < left.length then
        ∃ failure, outcome = (.error failure, r) ∧ failure.cause = .entity .invalid
      else
        outcome = (.ok stored, { r with
          messages := ⟨r.messages.messages ++ [stored]⟩
          state := p.publish (.messageCreated conversation stored.value) r.state
          told := r.told ++ (List.range p.handlerCount).map fun i =>
            (i, .messageCreated conversation stored.value) }) := by
  intro left outcome stored
  have checks := draftOf_source r.directory conversation sender text
  constructor
  · intro part
    rw [Blank.trims_iff, ← String.toList_inj]
    unfold left trimContent
    rw [String.toList_ofList]
  · have created : outcome = _ := Room.create_service p r now conversation sender text
    rw [checks] at created
    cases find : r.directory.find? conversation with
    | none =>
      rw [find] at created
      exact ⟨created, rfl⟩
    | some found =>
      rw [find] at created
      dsimp only at created ⊢
      by_cases member : sender ∈ found.participants
      case neg =>
        rw [if_neg member] at created
        rw [if_pos member]
        exact ⟨created, rfl⟩
      case pos =>
        rw [if_pos member] at created
        rw [if_neg (not_not_intro member)]
        by_cases nothing : (trimContent text).isEmpty = true
        · rw [if_pos nothing] at created
          rw [if_pos (.inl (String.isEmpty_iff.mp nothing))]
          exact ⟨_, created, rfl⟩
        · rw [if_neg nothing] at created
          by_cases long : maxContentLength < (trimContent text).length
          · rw [if_pos long] at created
            rw [if_pos (.inr long)]
            exact ⟨_, created, rfl⟩
          · have admitted : ¬(left = "" ∨ 65536 < left.length) :=
              not_or.mpr ⟨fun h => nothing (String.isEmpty_iff.mpr h), long⟩
            rw [if_neg long] at created
            rw [if_neg admitted]
            dsimp only at created
            rw [Room.publish_publisher] at created
            exact created

end Parley
