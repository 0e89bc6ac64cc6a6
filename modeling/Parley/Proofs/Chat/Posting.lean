import Mathlib.Tactic.SplitIfs
import Parley.Chat.Posting

/-!
# Laws of the directory and of posting

Who takes part in a conversation does not depend on which of the answers of a directory is asked
(`mem_ascending`), and `draftOf_source` says what becomes of a posted text, check by check.
-/

namespace Parley

/-- An id put into an ascending list is in it, and nothing else is new. -/
theorem mem_insertAscending {id other : Uuid} {ids : List Uuid} :
    other ∈ insertAscending id ids ↔ other = id ∨ other ∈ ids := by
  induction ids with
  | nil => simp [insertAscending]
  | cons first rest ih =>
      unfold insertAscending
      split_ifs with hlt heq
      · exact List.mem_cons
      · subst heq
        simp
      · rw [List.mem_cons, ih, List.mem_cons]
        exact or_left_comm

/-- Ids in ascending order are the same ids. -/
theorem mem_ascending {id : Uuid} {ids : List Uuid} : id ∈ ascending ids ↔ id ∈ ids := by
  induction ids with
  | nil => exact Iff.rfl
  | cons first rest ih =>
      rw [ascending, List.foldr_cons, mem_insertAscending, List.mem_cons]
      exact or_congr_right ih

namespace Directory

/-- A conversation is found under its id. -/
theorem id_of_find? {d : Directory} {id : ConversationId} {c : Conversation}
    (h : d.find? id = some c) : c.id = id := by
  unfold find? at h
  have hid := List.find?_some h
  exact of_decide_eq_true hid

end Directory

/-- Who may post, on a directory. -/
theorem ensureParticipant_source (d : Directory) (conversation : ConversationId)
    (sender : UserId) :
    d.source.ensureParticipant conversation sender =
      match d.find? conversation with
      | none => .error conversationNotFound
      | some c => if sender ∈ c.participants then .ok () else .error notAParticipant := by
  have hfound : d.source.find conversation =
      (d.find? conversation).elim (.error conversationNotFound) .ok := rfl
  unfold ConversationSource.ensureParticipant
  rw [hfound]
  cases hfind : d.find? conversation with
  | none => rfl
  | some c =>
      have hpart : d.source.isParticipant c.id sender = .ok (decide (sender ∈ c.participants)) := by
        have hsource : d.source.isParticipant c.id sender = .ok (d.isParticipant c.id sender) := rfl
        rw [hsource, Directory.isParticipant, Directory.id_of_find? hfind, hfind]
        rfl
      change (d.source.isParticipant c.id sender >>= fun takesPart =>
        if takesPart then pure () else throw notAParticipant) = _
      rw [hpart]
      by_cases hin : sender ∈ c.participants
      · simp only [hin, decide_true, if_true]
        rfl
      · simp only [hin, decide_false, if_false]
        rfl

/-- The checks of a posted text on a directory, in their order: the conversation is there, the
sender takes part, and the trimmed text is neither empty nor too long. -/
theorem draftOf_source (d : Directory) (conversation : ConversationId) (sender : UserId)
    (content : String) :
    draftOf d.source conversation sender content =
      match d.find? conversation with
      | none => .error conversationNotFound
      | some c =>
        if sender ∈ c.participants then
          if (trimContent content).isEmpty then
            .error (.entity .invalid "message content required")
          else if maxContentLength < (trimContent content).length then
            .error (.entity .invalid "message too long")
          else .ok { conversation, sender, content := trimContent content }
        else .error notAParticipant := by
  unfold draftOf
  rw [ensureParticipant_source]
  cases d.find? conversation with
  | none => rfl
  | some c =>
      simp only
      split_ifs <;> rfl

/-- A service that always stores refuses a text that may not be stored, and otherwise stores a
message and tells of it. -/
theorem MessageService.create_of_store {σ : Type} (service : MessageService σ)
    {store : Timestamp → Draft → σ → Message × σ}
    (stores : ∀ now draft state, service.store now draft state = .ok (store now draft state))
    (now : Timestamp) (conversation : ConversationId) (sender : UserId) (content : String)
    (state : σ) :
    service.create now conversation sender content state =
      match draftOf (service.conversations state) conversation sender content with
      | .error failure => (.error failure, state)
      | .ok draft =>
        (.ok (store now draft state).1,
          service.publisher.publish
            (.messageCreated conversation (store now draft state).1.value)
            (store now draft state).2) := by
  unfold MessageService.create
  cases draftOf (service.conversations state) conversation sender content with
  | error failure => rfl
  | ok draft => simp only [stores]

section Outcome

variable {d : Directory} {conversation : ConversationId} {sender : UserId} {content : String}

/-- A text that may be stored is stored trimmed, for the conversation and the sender named. -/
theorem draftOf_eq_ok {draft : Draft}
    (admitted : draftOf d.source conversation sender content = .ok draft) :
    draft = { conversation, sender, content := trimContent content } := by
  rw [draftOf_source] at admitted
  cases found : d.find? conversation with
  | none =>
      rw [found] at admitted
      cases admitted
  | some c =>
      rw [found] at admitted
      dsimp only at admitted
      split_ifs at admitted
      exact (Except.ok.inj admitted).symm

/-- A text is refused for one of three reasons, and the reason is given. -/
theorem draftOf_eq_error {failure : Failure}
    (refused : draftOf d.source conversation sender content = .error failure) :
    ∃ fault ∈ [EntityFault.notParticipant, .invalid, .notFound], ∃ reason,
      failure = .entity fault reason := by
  rw [draftOf_source] at refused
  cases found : d.find? conversation with
  | none =>
      rw [found] at refused
      obtain rfl := Except.error.inj refused
      exact ⟨.notFound, by simp, _, rfl⟩
  | some c =>
      rw [found] at refused
      dsimp only at refused
      split_ifs at refused
      · obtain rfl := Except.error.inj refused
        exact ⟨.invalid, by simp, _, rfl⟩
      · obtain rfl := Except.error.inj refused
        exact ⟨.invalid, by simp, _, rfl⟩
      · obtain rfl := Except.error.inj refused
        exact ⟨.notParticipant, by simp, _, rfl⟩

end Outcome

end Parley
