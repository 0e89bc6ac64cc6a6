import Mathlib.Data.List.Range
import Parley.Chat.Message

/-!
# Laws of messages and of the log

`Message.value_eq` writes out the value of a message, with the keys in their order. The log numbers
its messages from one on (`MessageLog.Numbered`), so their ids increase along it.
-/

namespace Parley

/-- The value of a message, member by member. -/
theorem Message.value_eq (m : Message) :
    m.value = .object [("content", .text m.content), ("conversation_id", m.conversation.toJson),
      ("created_at", .text m.createdAt.text), ("message_id", .integer m.id),
      ("sender_id", m.sender.toJson), ("type", .text m.kind.tag)] :=
  rfl

/-- The value of a message is in its canonical form already. -/
@[simp] theorem Message.canonical_value (m : Message) : m.value.canonical = m.value :=
  rfl

namespace MessageLog

/-- A log in which each message has its place, counted from one, as its id. -/
def Numbered (log : MessageLog) : Prop :=
  log.messages.map Message.id = (List.range log.messages.length).map fun i : Nat => (i : Int) + 1

/-- An empty log is numbered. -/
theorem numbered_empty : Numbered empty := rfl

/-- Storing a message keeps a log numbered. -/
theorem Numbered.append {log : MessageLog} (numbered : log.Numbered) (draft : Draft)
    (now : Timestamp) : (log.append draft now).2.Numbered := by
  unfold Numbered at numbered ⊢
  simp [MessageLog.append, List.range_succ, numbered]

/-- The ids of a numbered log increase along it. -/
theorem Numbered.pairwise {log : MessageLog} (numbered : log.Numbered) :
    log.messages.Pairwise fun m n => m.id < n.id := by
  have h : (log.messages.map Message.id).Pairwise (· < ·) := by
    rw [numbered, List.pairwise_map]
    exact List.pairwise_lt_range.imp fun hij => by omega
  exact List.pairwise_map.mp h

end MessageLog

end Parley
