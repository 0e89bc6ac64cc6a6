import Mathlib.Data.Finset.Card
import Parley.Proofs.Chat.Posting

/-!
# Adding to the directory

The last conversation added under an id is the one that is found (`Directory.find?_insertAll`), and
there are as many as there are ids (`Directory.size_insertAll`). A list of conversations that is
added twice leaves what it leaves when it is added once (`Directory.insertAll_insertAll`): what it
leaves are its own conversations, and after them those of other ids (`Directory.entries_insertAll`).
-/

namespace Parley

/-! ### Ascending order -/

namespace Directory

variable {d : Directory} {c : Conversation} {cs : List Conversation} {id : ConversationId}

/-- A directory is its entries. -/
theorem eq_of_entries {d e : Directory} (same : d.entries = e.entries) : d = e := by
  cases d
  cases e
  cases same
  rfl

/-! ### One conversation -/

/-- A conversation that is inserted stands first, in the place of any of its id. -/
theorem entries_insert (d : Directory) (c : Conversation) :
    (d.insert c).entries = c :: d.entries.filter (·.id ≠ c.id) := rfl

/-- A conversation that is added is found under its id, and nothing else changes. -/
theorem find?_insert (d : Directory) (c : Conversation) (id : ConversationId) :
    (d.insert c).find? id = if c.id = id then some c else d.find? id := by
  unfold find?
  rw [entries_insert, List.find?_cons]
  split_ifs with same
  · simp [same]
  · simp only [same, decide_false, List.find?_filter]
    congr 1
    funext other
    by_cases listed : other.id = id
    · simp [listed, Ne.symm same]
    · simp [listed]

/-- Inserting a conversation adds its id. -/
theorem mem_ids_insert (d : Directory) (c : Conversation) (id : ConversationId) :
    id ∈ (d.insert c).entries.map Conversation.id ↔
      id = c.id ∨ id ∈ d.entries.map Conversation.id := by
  simp only [entries_insert, List.map_cons, List.mem_cons, List.mem_map, List.mem_filter,
    decide_eq_true_eq]
  constructor
  · rintro (same | ⟨other, ⟨inside, -⟩, rfl⟩)
    · exact .inl same
    · exact .inr ⟨other, inside, rfl⟩
  · rintro (same | ⟨other, inside, rfl⟩)
    · exact .inl same
    · by_cases replaced : other.id = c.id
      · exact .inl replaced
      · exact .inr ⟨other, ⟨inside, replaced⟩, rfl⟩

/-! ### One after the other -/

/-- The first of a list is inserted first. -/
theorem insertAll_cons (d : Directory) (c : Conversation) (cs : List Conversation) :
    d.insertAll (c :: cs) = (d.insert c).insertAll cs := rfl

/-- Two lists are inserted one after the other. -/
theorem insertAll_append (d : Directory) (cs more : List Conversation) :
    d.insertAll (cs ++ more) = (d.insertAll cs).insertAll more :=
  List.foldl_append

/-- The last conversation listed with an id is found under it, or else the one that was there. -/
theorem find?_insertAll (d : Directory) (cs : List Conversation) (id : ConversationId) :
    (d.insertAll cs).find? id = (cs.filter (·.id = id)).getLast?.or (d.find? id) := by
  induction cs generalizing d with
  | nil => rfl
  | cons c cs ih =>
    rw [insertAll_cons, ih, find?_insert]
    by_cases same : c.id = id
    · rw [if_pos same, List.filter_cons_of_pos (by simpa using same), List.getLast?_cons]
      cases (cs.filter (·.id = id)).getLast? <;> rfl
    · rw [if_neg same, List.filter_cons_of_neg (by simpa using same)]

/-- Inserting conversations adds their ids. -/
theorem mem_ids_insertAll (d : Directory) (cs : List Conversation) (id : ConversationId) :
    id ∈ (d.insertAll cs).entries.map Conversation.id ↔
      id ∈ (d.entries ++ cs).map Conversation.id := by
  induction cs generalizing d with
  | nil => rw [List.append_nil]; rfl
  | cons c cs ih =>
    rw [insertAll_cons, ih, List.map_append, List.mem_append, mem_ids_insert]
    simp only [List.map_append, List.map_cons, List.mem_append, List.mem_cons]
    tauto

/-- There are as many conversations as there are ids, of those that were there and those added. -/
theorem size_insertAll (d : Directory) (cs : List Conversation) :
    (d.insertAll cs).size = ((d.entries ++ cs).map Conversation.id).toFinset.card := by
  have ids : ((d.entries ++ cs).map Conversation.id).toFinset =
      ((d.insertAll cs).entries.map Conversation.id).toFinset := by
    ext id
    rw [List.mem_toFinset, List.mem_toFinset, mem_ids_insertAll]
  rw [ids, List.toFinset_card_of_nodup (d.insertAll cs).distinct, List.length_map, size]

/-- What was added stands before what is left of what was there: the conversations of other ids. -/
theorem entries_insertAll (d : Directory) (cs : List Conversation) :
    (d.insertAll cs).entries =
      (empty.insertAll cs).entries ++ d.entries.filter (·.id ∉ cs.map Conversation.id) := by
  induction cs using List.reverseRecOn with
  | nil => simp [insertAll, empty]
  | append_singleton cs c ih =>
    have one (e : Directory) : e.insertAll [c] = e.insert c := rfl
    rw [insertAll_append, insertAll_append, one, one, entries_insert, entries_insert, ih,
      List.filter_append, List.filter_filter, List.cons_append]
    congr 3
    funext other
    rw [Bool.eq_iff_iff, Bool.and_eq_true, decide_eq_true_eq, decide_eq_true_eq, decide_eq_true_eq,
      List.map_append, List.map_singleton, List.mem_append, List.mem_singleton]
    tauto

/-- Adding the same conversations again changes nothing. -/
theorem insertAll_insertAll (d : Directory) (cs : List Conversation) :
    (d.insertAll cs).insertAll cs = d.insertAll cs := by
  apply eq_of_entries
  have own : (empty.insertAll cs).entries.filter (·.id ∉ cs.map Conversation.id) = [] := by
    rw [List.filter_eq_nil_iff]
    intro c inside
    have listed := (mem_ids_insertAll empty cs c.id).mp (List.mem_map_of_mem inside)
    simpa [empty] using listed
  rw [entries_insertAll, entries_insertAll d, List.filter_append, own, List.filter_filter,
    List.nil_append]
  simp only [Bool.and_self]

end Directory

end Parley
