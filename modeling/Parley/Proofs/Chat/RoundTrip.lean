import Parley.Proofs.Chat.Message
import Parley.Proofs.Json.Record
import Parley.Proofs.Json.Value
import Parley.Proofs.Time.Timestamp
import Parley.Proofs.Uuid

/-!
# Messages read back

A message is written in two ways, with its fields in their declared order and as a value with sorted
keys. Both are read back as the message they were written for, whatever its content
(`message_round_trip`). Texts are read that are never written, with fields in any order, as an
array, with an offset from UTC or with another spelling of an id; the message that is read from one
is read back as well.
-/

namespace Parley

namespace Message

/-- The message that a JSON text stands for. -/
def ofText? (text : String) : Option Message :=
  (Node.ofChars? text.toList).bind ofNode?

/-- What is true of every message that is read: the id fits in its word, and the moment is in a year
that moments are read in. -/
structure WellFormed (m : Message) : Prop where
  id : Word.isSigned64 m.id = true
  year : m.createdAt.date.inRange = true

variable {m : Message}

/-! ### The fields of a message -/

/-- The fields that were collected from a record state a message. -/
structure Stated (m : Message) (found : List (String × Node)) : Prop where
  id : Fields.require? found "message_id" idOfNode? = some m.id
  conversation : Fields.require? found "conversation_id" Uuid.ofNode? = some m.conversation
  sender : Fields.require? found "sender_id" Uuid.ofNode? = some m.sender
  content : Fields.require? found "content" Node.text? = some m.content
  kind : Fields.require? found "type" (fun n => n.alternative?.bind MessageKind.ofTag?) =
    some m.kind
  createdAt : Fields.require? found "created_at" (fun n => n.text?.bind Timestamp.parse?) =
    some m.createdAt

/-- A record is read as the message that its fields state. -/
theorem ofNode?_eq_some_iff {node : Node} :
    ofNode? node = some m ↔ ∃ found, node.fields? fieldNames = some found ∧ m.Stated found := by
  constructor
  · intro read
    unfold ofNode? at read
    obtain ⟨found, collected, read⟩ := Option.bind_eq_some_iff.mp read
    obtain ⟨id, hid, read⟩ := Option.bind_eq_some_iff.mp read
    obtain ⟨conversation, hconversation, read⟩ := Option.bind_eq_some_iff.mp read
    obtain ⟨sender, hsender, read⟩ := Option.bind_eq_some_iff.mp read
    obtain ⟨content, hcontent, read⟩ := Option.bind_eq_some_iff.mp read
    obtain ⟨kind, hkind, read⟩ := Option.bind_eq_some_iff.mp read
    obtain ⟨createdAt, hcreatedAt, read⟩ := Option.bind_eq_some_iff.mp read
    obtain rfl := Option.some.inj read
    exact ⟨found, collected, hid, hconversation, hsender, hcontent, hkind, hcreatedAt⟩
  · rintro ⟨found, collected, stated⟩
    unfold ofNode?
    rw [collected, Option.bind_eq_bind, Option.bind_some, stated.id, stated.conversation,
      stated.sender, stated.content, stated.kind, stated.createdAt]
    rfl

/-- An id that is read fits a signed word. -/
theorem isSigned64_of_idOfNode? {node : Node} {id : Int} (read : idOfNode? node = some id) :
    Word.isSigned64 id = true := by
  obtain ⟨n, -, checked⟩ := Option.bind_eq_some_iff.mp read
  obtain ⟨word, same⟩ := Option.ite_none_right_eq_some.mp checked
  exact Option.some.inj same ▸ word

/-- A message that is read is well-formed. -/
theorem Stated.wellFormed {found : List (String × Node)} (stated : m.Stated found) :
    m.WellFormed := by
  constructor
  case id =>
    obtain ⟨node, -, read⟩ := Option.bind_eq_some_iff.mp stated.id
    exact isSigned64_of_idOfNode? read
  case year =>
    obtain ⟨node, -, read⟩ := Option.bind_eq_some_iff.mp stated.createdAt
    obtain ⟨text, -, parsed⟩ := Option.bind_eq_some_iff.mp read
    exact Timestamp.inRange_of_parse? parsed

/-! ### Reading what was written -/

/-- An id that fits a signed word is read back. -/
theorem idOfNode?_integer {id : Int} (word : Word.isSigned64 id = true) :
    idOfNode? (Json.integer id).toNode = some id := by
  have whole : (Json.integer id).toNode.integer? = some id := Numeral.integer?_toNumeral id
  rw [idOfNode?, whole]
  exact if_pos word

/-- A written id is read back. -/
theorem uuidOfNode?_toJson (id : Uuid) : Uuid.ofNode? id.toJson.toNode = some id :=
  Uuid.parse?_text id

/-- A kind is known by its tag. -/
theorem ofTag?_tag (kind : MessageKind) : MessageKind.ofTag? kind.tag = some kind := by
  cases kind
  rfl

/-- The fields of a message as they are written, in their declared order. -/
def fields (m : Message) : List (String × Node) :=
  [("message_id", (Json.integer m.id).toNode), ("conversation_id", m.conversation.toJson.toNode),
    ("sender_id", m.sender.toJson.toNode), ("content", .text (.ok m.content)),
    ("type", .text (.ok m.kind.tag)), ("created_at", .text (.ok m.createdAt.text))]

/-- The fields of a message state it in whichever order they stand. -/
theorem WellFormed.stated (h : m.WellFormed) {found : List (String × Node)}
    (once : (found.map Prod.fst).Nodup) (all : m.fields ⊆ found) : m.Stated found := by
  have require {α : Type} {name : String} {value : Node} (read : Node → Option α)
      (inside : (name, value) ∈ m.fields) : Fields.require? found name read = read value := by
    rw [Fields.require?, (Node.lookup_eq_some_iff_mem once).mpr (all inside), Option.bind_some]
  constructor
  case id => exact (require _ (.head _)).trans (idOfNode?_integer h.id)
  case conversation => exact (require _ (.tail _ (.head _))).trans (uuidOfNode?_toJson _)
  case sender => exact (require _ (.tail _ (.tail _ (.head _)))).trans (uuidOfNode?_toJson _)
  case content => exact require _ (.tail _ (.tail _ (.tail _ (.head _))))
  case kind =>
    exact (require _ (.tail _ (.tail _ (.tail _ (.tail _ (.head _)))))).trans (ofTag?_tag _)
  case createdAt =>
    exact (require _ (.tail _ (.tail _ (.tail _ (.tail _ (.tail _ (.head _))))))).trans
      (Timestamp.parse?_text _ h.year)

/-- The fields of a message written in declared order. -/
theorem fields?_toJson (m : Message) : m.toJson.toNode.fields? fieldNames = some m.fields := by
  rfl

/-- The fields of a message written with sorted keys. -/
theorem fields?_value (m : Message) :
    m.value.toNode.fields? fieldNames =
      some [("content", .text (.ok m.content)), ("conversation_id", m.conversation.toJson.toNode),
        ("created_at", .text (.ok m.createdAt.text)), ("message_id", (Json.integer m.id).toNode),
        ("sender_id", m.sender.toJson.toNode), ("type", .text (.ok m.kind.tag))] := by
  rfl

/-- What is written with the fields in their declared order is read back. -/
theorem WellFormed.ofNode?_toJson (h : m.WellFormed) : ofNode? m.toJson.toNode = some m := by
  have once : (m.fields.map Prod.fst).Nodup := by
    change fieldNames.Nodup
    decide
  exact ofNode?_eq_some_iff.mpr ⟨m.fields, m.fields?_toJson, h.stated once (List.Subset.refl _)⟩

/-- What is written with sorted keys is read back. -/
theorem WellFormed.ofNode?_value (h : m.WellFormed) : ofNode? m.value.toNode = some m := by
  refine ofNode?_eq_some_iff.mpr ⟨_, m.fields?_value, h.stated ?_ ?_⟩
  · change ["content", "conversation_id", "created_at", "message_id", "sender_id", "type"].Nodup
    decide
  · intro field inside
    simp only [fields, List.mem_cons, List.not_mem_nil, or_false] at inside ⊢
    tauto

/-- To read a written value is to read its node. -/
theorem ofText?_compact (value : Json) : ofText? value.compact = ofNode? value.toNode := by
  rw [ofText?, Json.compact, String.toList_ofList, Node.ofChars?_render, Option.bind_some]

/-- Both texts of a message are read back. -/
theorem WellFormed.read_back (h : m.WellFormed) :
    ofText? m.toJson.compact = some m ∧ ofText? m.value.compact = some m := by
  rw [ofText?_compact, ofText?_compact]
  exact ⟨h.ofNode?_toJson, h.ofNode?_value⟩

/-- Whatever text a message is read from, the message is well-formed. -/
theorem wellFormed_of_ofText? {text : String} (read : ofText? text = some m) : m.WellFormed := by
  obtain ⟨node, -, found⟩ := Option.bind_eq_some_iff.mp read
  obtain ⟨fields, -, stated⟩ := ofNode?_eq_some_iff.mp found
  exact stated.wellFormed

end Message

/-- **Messages are read back.** Every message whose id has sixty-four bits and whose moment is in
one of the years that moments are read in, leap seconds included, is read back from either of its
two texts. So is every message that was itself read from some text. -/
theorem message_round_trip :
    (∀ m : Message, Word.isSigned64 m.id = true → m.createdAt.date.inRange = true →
      Message.ofText? m.toJson.compact = some m ∧ Message.ofText? m.value.compact = some m) ∧
    ∀ (text : String) (m : Message), Message.ofText? text = some m →
      Message.ofText? m.toJson.compact = some m ∧ Message.ofText? m.value.compact = some m :=
  ⟨fun _ id year => Message.WellFormed.read_back ⟨id, year⟩,
    fun _ _ read => (Message.wellFormed_of_ofText? read).read_back⟩

/-- A message of the leap second at the end of 2016, read from a text that no message is written as:
an array, with an id in capitals and one without hyphens, and a local time of the next day with a
tenth digit. -/
theorem message_round_trip_leap_second :
    let items := ["-9223372036854775808", "\"URN:UUID:00000000-0000-0000-0000-00000000000A\"",
      "\"0000000000000000000000000000000b\"", "\"sch\\u00f6n \\\"\\n\"", "\x7b\"text\": null\x7d",
      "\"2017-01-01 01:59:60.1234567899+02:00\""]
    let text := String.ofList ('[' :: [','].intercalate (items.map String.toList) ++ [']'])
    let m : Message :=
      { id := -9223372036854775808, conversation := ⟨10⟩, sender := ⟨11⟩, content := "schön \"\n"
        kind := .text
        createdAt := ⟨⟨2016, 12, 31, by decide, by decide⟩, 86399, 1123456789, by decide,
          by decide, by decide⟩ }
    Message.ofText? text = some m ∧ Message.ofText? m.toJson.compact = some m ∧
      Message.ofText? m.value.compact = some m := by
  intro items text m
  have read : Message.ofText? text = some m := by
    rw [Message.ofText?, String.toList_ofList]
    decide +kernel
  exact ⟨read, message_round_trip.2 text m read⟩

end Parley
