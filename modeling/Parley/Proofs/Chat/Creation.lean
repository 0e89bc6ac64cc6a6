import Parley.Proofs.Chat.Room

/-!
# Creations side by side

A message is created in steps: the conversation is looked up, membership and text are checked, the
draft is stored, and one handler after the other is told. Between two steps anything else may
happen. A `Creation` is how far that has come, and an `Assembly` is a room with the creations that
are under way in it; each belongs to a service, which is known by its publisher. A draft that is
stored directly is a creation of which only the storing is left and which nobody is told of.

A creation whose steps nothing comes between is `MessageService.create`
(`Creation.steps_asked`).
-/

namespace Parley

/-- Checks a posted text, when its sender is known to take part. -/
def draftOfContent (conversation : ConversationId) (sender : UserId) (content : String) :
    Except Failure Draft := do
  let content := trimContent content
  if content.isEmpty then throw (.entity .invalid "message content required")
  if maxContentLength < content.length then throw (.entity .invalid "message too long")
  pure { conversation, sender, content }

/-- How far the creation of a message has come. -/
inductive Creation where
  | asked (conversation : ConversationId) (sender : UserId) (content : String)
  /-- The conversation has been found, under the id that it bears. -/
  | found (known conversation : ConversationId) (sender : UserId) (content : String)
  | drafted (draft : Draft)
  /-- The message is stored, and so many handlers have been told. -/
  | stored (message : Message) (told : Nat)
  | refused (failure : Failure)

namespace Creation

variable {τ : Type}

/-- What a creation has returned, if it has come to its end. -/
def result? (p : Publisher τ) : Creation → Option (Except Failure Message)
  | .stored message told => if p.handlerCount ≤ told then some (.ok message) else none
  | .refused failure => some (.error failure)
  | _ => none

/-- What a handler has yet to be told of. -/
def owed (place : Nat) : Creation → List Event
  | .stored message told => if told ≤ place then [message.event] else []
  | _ => []

/-- The next step of a creation. -/
def step (p : Publisher τ) (now : Timestamp) (r : Room τ) : Creation → Creation × Room τ
  | .asked conversation sender content =>
    match r.directory.source.find conversation with
    | .error failure => (.refused failure, r)
    | .ok c => (.found c.id conversation sender content, r)
  | .found known conversation sender content =>
    match r.directory.source.isParticipant known sender with
    | .error failure => (.refused failure, r)
    | .ok false => (.refused notAParticipant, r)
    | .ok true =>
      match draftOfContent conversation sender content with
      | .error failure => (.refused failure, r)
      | .ok draft => (.drafted draft, r)
  | .drafted draft => (.stored (r.store now draft).1 0, (r.store now draft).2)
  | .stored message told =>
    match p.handlers[told]? with
    | none => (.stored message told, r)
    | some handler => (.stored message (told + 1), Room.tell told handler message.event r)
  | .refused failure => (.refused failure, r)

/-- So many steps of a creation, with nothing between them. -/
def steps (p : Publisher τ) (now : Timestamp) : Nat → Creation × Room τ → Creation × Room τ
  | 0, reached => reached
  | n + 1, (c, r) => steps p now n (c.step p now r)

/-! ### A creation that nothing comes between -/

/-- The checks of a posted text are those of the steps, in their order. -/
theorem draftOf_eq (source : ConversationSource) (conversation : ConversationId)
    (sender : UserId) (content : String) :
    draftOf source conversation sender content =
      match source.find conversation with
      | .error failure => .error failure
      | .ok c =>
        match source.isParticipant c.id sender with
        | .error failure => .error failure
        | .ok false => .error notAParticipant
        | .ok true => draftOfContent conversation sender content := by
  unfold draftOf ConversationSource.ensureParticipant
  cases source.find conversation with
  | error failure => rfl
  | ok c =>
    dsimp only
    change (do (do if ← source.isParticipant c.id sender then pure () else throw notAParticipant);
               draftOfContent conversation sender content) = _
    cases source.isParticipant c.id sender with
    | error failure => rfl
    | ok takesPart => cases takesPart <;> rfl

/-- A draft is for the conversation that was asked for. -/
theorem conversation_of_draftOfContent {conversation : ConversationId} {sender : UserId}
    {content : String} {draft : Draft}
    (h : draftOfContent conversation sender content = .ok draft) :
    draft.conversation = conversation := by
  have checks : draftOfContent conversation sender content =
      if (trimContent content).isEmpty then .error (.entity .invalid "message content required")
      else if maxContentLength < (trimContent content).length then
        .error (.entity .invalid "message too long")
      else .ok { conversation, sender, content := trimContent content } := by
    unfold draftOfContent
    dsimp only
    split_ifs <;> rfl
  rw [checks] at h
  split_ifs at h
  cases h
  rfl

variable (p : Publisher τ) (now : Timestamp)

/-- A creation that was refused has no further steps. -/
theorem steps_refused (failure : Failure) (n : Nat) (r : Room τ) :
    steps p now n (.refused failure, r) = (.refused failure, r) := by
  induction n with
  | zero => rfl
  | succ n ih => exact ih

/-- The handlers from some place on are told one after the other. -/
theorem steps_stored {before rest : List (Handler τ)} (handlers : p.handlers = before ++ rest)
    (message : Message) (r : Room τ) :
    steps p now rest.length (.stored message before.length, r) =
      (.stored message p.handlerCount,
        (rest.mapIdx fun i handler => Room.tell (before.length + i) handler).foldl
          (fun r handler => handler message.event r) r) := by
  induction rest generalizing before r with
  | nil =>
    rw [List.append_nil] at handlers
    unfold Publisher.handlerCount
    rw [handlers]
    rfl
  | cons handler rest ih =>
    have told : step p now r (.stored message before.length) =
        (.stored message (before.length + 1),
          Room.tell before.length handler message.event r) := by
      have next : p.handlers[before.length]? = some handler := by
        rw [handlers, List.getElem?_append_right (Nat.le_refl _), Nat.sub_self]
        rfl
      unfold step
      dsimp only
      rw [next]
    have extended : p.handlers = before ++ [handler] ++ rest := by simp [handlers]
    have later := ih extended (Room.tell before.length handler message.event r)
    rw [List.length_append, List.length_singleton] at later
    rw [List.length_cons, steps, told, later, List.mapIdx_cons, List.foldl_cons, Room.tell_succ]
    rfl

/-- A creation that nothing comes between: what it returns and what it makes of the room. -/
theorem steps_asked (conversation : ConversationId) (sender : UserId) (content : String)
    (r : Room τ) :
    let reached := steps p now (p.handlerCount + 3) (.asked conversation sender content, r)
    (reached.1.result? p, reached.2) =
      let (result, r) := (Room.service p).create now conversation sender content r
      (some result, r) := by
  intro reached
  rw [Room.create_service, draftOf_eq]
  unfold reached
  rw [steps, step]
  cases r.directory.source.find conversation with
  | error failure =>
    dsimp only
    rw [steps_refused]
    rfl
  | ok c =>
    dsimp only
    rw [steps, step]
    cases r.directory.source.isParticipant c.id sender with
    | error failure =>
      dsimp only
      rw [steps_refused]
      rfl
    | ok takesPart =>
      cases takesPart with
      | false =>
        dsimp only
        rw [steps_refused]
        rfl
      | true =>
        dsimp only
        cases hdraft : draftOfContent conversation sender content with
        | error failure =>
          dsimp only
          rw [steps_refused]
          rfl
        | ok draft =>
          dsimp only
          have told : steps p now p.handlerCount
              (.stored (r.store now draft).1 0, (r.store now draft).2) = _ :=
            steps_stored p now (List.nil_append p.handlers).symm _ _
          have event : (r.store now draft).1.event =
              .messageCreated conversation (r.store now draft).1.value := by
            rw [← conversation_of_draftOfContent hdraft]
            rfl
          simp only [List.length_nil, Nat.zero_add, event] at told
          rw [steps, step, told, result?, if_pos (Nat.le_refl _)]
          rfl

end Creation

end Parley
