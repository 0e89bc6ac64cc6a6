import Parley.Chat.Seed
import Parley.Proofs.Chat.Conversation
import Parley.Proofs.Chat.Directory
import Parley.Proofs.Text.Utf8

/-!
# Loading a seed file

`Seed.Lists` says which conversations a file lists: its bytes are UTF-8, its text is JSON, and the
tree of that is a record whose one field, if it is there, is an array of trees that state them. A
file that lists conversations is loaded, and any other fails (`Seed.load_cases`).

So a file is loaded as a whole or not at all (`seed_load`): an entry that states no conversation,
wherever it stands, leaves the directory as it was.
-/

namespace Parley

namespace Seed

/-- The fields of a seed. -/
def fieldNames : List String := ["conversations"]

/-- The tree states the conversations in their order: it is a record of the fields of seeds, with
their array in the one field, or without that field and then there are none. -/
structure Stated (cs : List Conversation) (node : Node) : Prop where
  record : node.IsRecord fieldNames
  conversations :
    (∃ items, node.HasField fieldNames "conversations" (.array items) ∧
      List.Forall₂ (fun item c => Conversation.Stated c item) items cs) ∨
    (∀ value, ¬node.HasField fieldNames "conversations" value) ∧ cs = []

/-- The file lists the conversations. -/
def Lists (contents : Except String (List UInt8)) (cs : List Conversation) : Prop :=
  ∃ text node, contents = .ok (Utf8.encode text) ∧ Json.StandsFor text (.element node) ∧
    Stated cs node

variable {contents : Except String (List UInt8)} {cs : List Conversation} {d : Directory}

/-! ### What a file lists -/

/-- The trees that are read as a seed are those that state its conversations. -/
theorem ofNode?_eq_some_iff {node : Node} : ofNode? node = some ⟨cs⟩ ↔ Stated cs node := by
  have field {found : List (String × Node)} (collected : node.fields? fieldNames = some found) :
      Fields.withDefault? found "conversations"
          (fun n => n.items?.bind (·.mapM Conversation.ofNode?)) [] = some cs ↔
        (∃ items, node.HasField fieldNames "conversations" (.array items) ∧
          List.Forall₂ (fun item c => Conversation.Stated c item) items cs) ∨
        (∀ value, ¬node.HasField fieldNames "conversations" value) ∧ cs = [] := by
    rw [Node.withDefault?_fields?_eq_some_iff (by decide) collected (by decide)]
    simp only [Node.items?_mapM_eq_some_iff, Conversation.ofNode?_eq_some_iff, eq_comm (b := cs)]
    apply or_congr_left
    constructor
    · rintro ⟨_, has, items, rfl, stated⟩
      exact ⟨items, has, stated⟩
    · rintro ⟨items, has, stated⟩
      exact ⟨_, has, items, rfl, stated⟩
  constructor
  · intro read
    unfold ofNode? at read
    obtain ⟨found, collected, read⟩ := Option.bind_eq_some_iff.mp read
    obtain ⟨_, given, same⟩ := Option.bind_eq_some_iff.mp read
    obtain rfl : _ = cs := Seed.mk.inj (Option.some.inj same)
    exact ⟨Node.exists_fields?_iff.mp ⟨found, collected⟩, (field collected).mp given⟩
  · rintro ⟨record, given⟩
    obtain ⟨found, collected⟩ := Node.exists_fields?_iff.mpr record
    have names : fieldNames = ["conversations"] := rfl
    unfold ofNode?
    rw [← names, collected, Option.bind_eq_bind, Option.bind_some, (field collected).mpr given]
    rfl

/-- The files that are read are those that list conversations. -/
theorem ofFile_eq_ok_iff : ofFile contents = .ok ⟨cs⟩ ↔ Lists contents cs := by
  constructor
  · intro read
    unfold ofFile at read
    split at read
    case h_1 => cases read
    case h_2 bytes =>
      split at read
      case h_1 => cases read
      case h_2 text decoded =>
        cases seed : ofChars? text.toList with
        | none => rw [seed] at read; cases read
        | some found =>
          rw [seed] at read
          obtain rfl := Except.ok.inj read
          obtain ⟨node, tree, stated⟩ := Option.bind_eq_some_iff.mp seed
          exact ⟨text.toList, node, congrArg Except.ok (Utf8.decode?_eq_some_iff.mp decoded),
            Node.ofChars?_eq_some_iff.mp tree, ofNode?_eq_some_iff.mp stated⟩
  · rintro ⟨text, node, rfl, tree, stated⟩
    have decoded : Utf8.decode? (Utf8.encode text) = some (String.ofList text) := by
      rw [Utf8.decode?_eq_some_iff, String.toList_ofList]
    have seed : ofChars? text = some ⟨cs⟩ := by
      rw [ofChars?, Node.ofChars?_eq_some_iff.mpr tree, Option.bind_some,
        ofNode?_eq_some_iff.mpr stated]
    simp only [ofFile, decoded, String.toList_ofList, seed, Option.elim_some]

/-- A file that lists conversations is loaded: they are added one after the other. -/
theorem load_of_lists (listed : Lists contents cs) (d : Directory) :
    load contents d = (.ok cs.length, d.insertAll cs) := by
  rw [load, ofFile_eq_ok_iff.mpr listed]
  rfl

/-- Loading a file fails without a trace where it lists no conversations, and adds all of them
where it lists some. -/
theorem load_cases (contents : Except String (List UInt8)) (d : Directory) :
    (∃ failure, load contents d = (.error failure, d) ∧ ∀ cs, ¬Lists contents cs) ∨
      ∃ cs, Lists contents cs ∧ load contents d = (.ok cs.length, d.insertAll cs) := by
  cases read : ofFile contents with
  | error failure =>
    refine .inl ⟨failure, by rw [load, read], fun cs listed => ?_⟩
    rw [ofFile_eq_ok_iff.mpr listed] at read
    cases read
  | ok seed =>
    have listed : Lists contents seed.conversations := ofFile_eq_ok_iff.mp read
    exact .inr ⟨_, listed, load_of_lists listed d⟩

end Seed

/-- **Loading a seed file, whatever it holds, is all or nothing.** Where it fails, the file lists no
conversations and the directory is as it was. Where it succeeds with a count, the file lists so many
conversations, repetitions included; the last one listed with an id is found under it, and under
every other id what was found before; there are as many conversations as ids that were there or are
listed; and loading the file once more gives the same count and changes nothing. -/
theorem seed_load (contents : Except String (List UInt8)) (d : Directory) :
    match Seed.load contents d with
    | (.error _, later) => later = d ∧ ∀ cs, ¬Seed.Lists contents cs
    | (.ok count, later) =>
      ∃ cs, Seed.Lists contents cs ∧ count = cs.length ∧
        (∀ id, later.find? id = (cs.filter (·.id = id)).getLast?.or (d.find? id)) ∧
        later.size = ((d.entries ++ cs).map Conversation.id).toFinset.card ∧
        Seed.load contents later = (.ok count, later) := by
  rcases Seed.load_cases contents d with ⟨failure, load, none⟩ | ⟨cs, listed, load⟩
  · rw [load]
    exact ⟨rfl, none⟩
  · rw [load]
    refine ⟨cs, listed, rfl, d.find?_insertAll cs, d.size_insertAll cs, ?_⟩
    rw [Seed.load_of_lists listed, d.insertAll_insertAll]

end Parley
