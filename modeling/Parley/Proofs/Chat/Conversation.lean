import Parley.Chat.Conversation
import Parley.Proofs.Json.Accepted
import Parley.Proofs.Json.Fields
import Parley.Proofs.Uuid

/-!
# Conversations read back

`Conversation.Stated` says which trees state a conversation, in either form of a record, with a name
that is left out or null where there is none and with ids in any spelling. These are the trees that
are read as it (`ofNode?_eq_some_iff`). What is written for a conversation states it, so every
conversation is read back, and so is one that was read from some other text
(`conversation_round_trip`).
-/

namespace Parley

/-- The tree is a text that spells the id. -/
def Uuid.Stated (id : Uuid) (node : Node) : Prop :=
  ∃ text, node = .text (.ok text) ∧ id.Spells text.toList

namespace ConversationKind

/-- A kind is known by its tag alone. -/
theorem ofTag?_eq_some_iff {tag : String} {kind : ConversationKind} :
    ofTag? tag = some kind ↔ tag = kind.tag := by
  constructor
  · intro read
    unfold ofTag? at read
    split_ifs at read with oneOnOne group
    · exact Option.some.inj read ▸ oneOnOne
    · exact Option.some.inj read ▸ group
  · rintro rfl
    exact ofTag?_tag kind

end ConversationKind

namespace Conversation

/-- The conversation that a JSON text stands for. -/
def ofText? (text : String) : Option Conversation :=
  (Node.ofChars? text.toList).bind ofNode?

/-- The tree states the conversation: it is a record of the fields of conversations, and has in each
what the conversation has. -/
structure Stated (c : Conversation) (node : Node) : Prop where
  record : node.IsRecord fieldNames
  id : ∃ value, node.HasField fieldNames "conversation_id" value ∧ c.id.Stated value
  kind : ∃ value, node.HasField fieldNames "type" value ∧ value.IsAlternative c.kind.tag
  name : ∀ name, c.name = some name → node.HasField fieldNames "name" (.text (.ok name))
  nameless : c.name = none → ∀ value, node.HasField fieldNames "name" value → value = .null
  participants : ∃ items, node.HasField fieldNames "participants" (.array items) ∧
    List.Forall₂ (fun item user => Uuid.Stated user item) items c.participants

variable {c : Conversation} {node : Node}

/-! ### The fields of a conversation -/

/-- The fields of a conversation have different names. -/
theorem nodup_fieldNames : fieldNames.Nodup := by
  decide

/-- A node says a kind exactly if it is an alternative with the tag of the kind. -/
theorem kind_eq_some_iff {value : Node} {kind : ConversationKind} :
    value.alternative?.bind ConversationKind.ofTag? = some kind ↔ value.IsAlternative kind.tag := by
  simp only [Option.bind_eq_some_iff, ConversationKind.ofTag?_eq_some_iff, exists_eq_right,
    Node.alternative?_eq_some_iff]

/-- A node lists users exactly if it is an array of nodes that state them in this order. -/
theorem participants_eq_some_iff {value : Node} {users : List UserId} :
    value.items?.bind (·.mapM Uuid.ofNode?) = some users ↔
      ∃ items, value = .array items ∧
        List.Forall₂ (fun item user => Uuid.Stated user item) items users := by
  simp only [Node.items?_mapM_eq_some_iff, Uuid.ofNode?_eq_some_iff, Uuid.Stated]

/-- **The trees read as a conversation are those that state it.** -/
theorem ofNode?_eq_some_iff : ofNode? node = some c ↔ c.Stated node := by
  constructor
  · intro read
    unfold ofNode? at read
    obtain ⟨found, collected, read⟩ := Option.bind_eq_some_iff.mp read
    obtain ⟨id, hid, read⟩ := Option.bind_eq_some_iff.mp read
    obtain ⟨kind, hkind, read⟩ := Option.bind_eq_some_iff.mp read
    obtain ⟨name, hname, read⟩ := Option.bind_eq_some_iff.mp read
    obtain ⟨participants, hparticipants, read⟩ := Option.bind_eq_some_iff.mp read
    obtain rfl := Option.some.inj read
    have required {α : Type} {name : String} {read : Node → Option α} {a : α}
        (listed : name ∈ fieldNames) (h : Fields.require? found name read = some a) :=
      (Node.require?_fields?_eq_some_iff nodup_fieldNames collected listed).mp h
    have named := (Node.withDefault?_optional?_eq_some_iff nodup_fieldNames collected
      (by decide) rfl).mp hname
    constructor
    case record => exact Node.exists_fields?_iff.mp ⟨found, collected⟩
    case id =>
      obtain ⟨value, has, spelled⟩ := required (by decide) hid
      exact ⟨value, has, Uuid.ofNode?_eq_some_iff.mp spelled⟩
    case kind =>
      obtain ⟨value, has, tagged⟩ := required (by decide) hkind
      exact ⟨value, has, kind_eq_some_iff.mp tagged⟩
    case name =>
      intro name present
      obtain ⟨value, has, text⟩ := named.1 name present
      rwa [← Node.text?_eq_some_iff.mp text]
    case nameless => exact named.2
    case participants =>
      obtain ⟨value, has, users⟩ := required (by decide) hparticipants
      obtain ⟨items, rfl, spelled⟩ := participants_eq_some_iff.mp users
      exact ⟨items, has, spelled⟩
  · intro stated
    obtain ⟨found, collected⟩ := Node.exists_fields?_iff.mpr stated.record
    have required {α : Type} {name : String} {read : Node → Option α} {a : α} {value : Node}
        (listed : name ∈ fieldNames) (has : node.HasField fieldNames name value)
        (h : read value = some a) : Fields.require? found name read = some a :=
      (Node.require?_fields?_eq_some_iff nodup_fieldNames collected listed).mpr ⟨value, has, h⟩
    obtain ⟨_, hasId, spelled⟩ := stated.id
    obtain ⟨_, hasKind, tagged⟩ := stated.kind
    obtain ⟨items, hasParticipants, users⟩ := stated.participants
    have named : Fields.withDefault? found "name" (Node.optional? Node.text?) none = some c.name :=
      (Node.withDefault?_optional?_eq_some_iff nodup_fieldNames collected (by decide) rfl).mpr
        ⟨fun name present => ⟨_, stated.name name present, rfl⟩, stated.nameless⟩
    unfold ofNode?
    rw [collected, Option.bind_eq_bind, Option.bind_some,
      required (by decide) hasId (Uuid.ofNode?_eq_some_iff.mpr spelled),
      required (by decide) hasKind (kind_eq_some_iff.mpr tagged), named,
      required (by decide) hasParticipants (participants_eq_some_iff.mpr ⟨items, rfl, users⟩)]
    rfl

/-! ### Reading what was written -/

/-- To read a written value is to read its node. -/
theorem ofText?_compact (value : Json) : ofText? value.compact = ofNode? value.toNode := by
  rw [ofText?, Json.compact, String.toList_ofList, Node.ofChars?_render, Option.bind_some]

/-- The members of a conversation as they are written, without a name if there is none. -/
def members (c : Conversation) : List (String × Node) :=
  [("conversation_id", .text (.ok c.id.text)), ("type", .text (.ok c.kind.tag))]
    ++ (c.name.toList.map fun name => ("name", .text (.ok name)))
    ++ [("participants", .array (c.participants.map fun user => .text (.ok user.text)))]

/-- The node of a written conversation is an object of its members. -/
theorem toNode_toJson (c : Conversation) : c.toJson.toNode = Node.ofMembers c.members := by
  rw [toJson, Node.toNode_object]
  cases name : c.name <;>
    simp [members, name, Node.toItems_eq_map, Function.comp_def, Uuid.toJson, Json.toNode]

/-- The members of a written conversation have different names. -/
theorem nodup_members (c : Conversation) : (c.members.map Prod.fst).Nodup := by
  cases name : c.name <;> simp [members, name]

/-- What is written for a conversation states it. -/
theorem stated_toJson (c : Conversation) : c.Stated c.toJson.toNode := by
  rw [toNode_toJson]
  constructor
  case record =>
    exact .object fun name _ => List.nodup_iff_count_le_one.mp c.nodup_members name
  case id =>
    refine ⟨_, .member ?_, _, rfl, Uuid.parse?_eq_some_iff.mp c.id.parse?_text⟩
    simp [members]
  case kind =>
    refine ⟨_, .member ?_, .text⟩
    simp [members]
  case name =>
    intro name present
    apply Node.HasField.member
    simp [members, present]
  case nameless =>
    intro absent value has
    rw [Node.hasField_ofMembers] at has
    simp [members, absent] at has
  case participants =>
    refine ⟨_, .member (List.mem_append_right _ (List.mem_singleton_self _)), ?_⟩
    rw [List.forall₂_map_left_iff, List.forall₂_same]
    intro user _
    exact ⟨_, rfl, Uuid.parse?_eq_some_iff.mp user.parse?_text⟩

/-- A conversation is read back from its text. -/
theorem ofText?_toJson (c : Conversation) : ofText? c.toJson.compact = some c := by
  rw [ofText?_compact]
  exact ofNode?_eq_some_iff.mpr c.stated_toJson

/-- A name is written if there is one. -/
theorem mem_toJson_name_iff (c : Conversation) : ∃ members, c.toJson = .object members ∧
    ∀ value, ("name", value) ∈ members ↔ ∃ name, c.name = some name ∧ value = .text name := by
  refine ⟨_, rfl, fun value => ?_⟩
  cases c.name <;> simp

end Conversation

/-- **Conversations are read back.** Every conversation is read back from its text, in which a name
stands if and only if it has one. The texts that are read as a conversation are the JSON texts of
trees that state it, and what is read from any of them is read back from its own text. A kind is
written as the one name it is read from. -/
theorem conversation_round_trip :
    (∀ c : Conversation, Conversation.ofText? c.toJson.compact = some c ∧
      ∃ members, c.toJson = .object members ∧
        ∀ value, ("name", value) ∈ members ↔ ∃ name, c.name = some name ∧ value = .text name) ∧
    (∀ (text : String) (c : Conversation), Conversation.ofText? text = some c ↔
      ∃ node, Json.StandsFor text.toList (.element node) ∧ c.Stated node) ∧
    (∀ (text : String) (c : Conversation), Conversation.ofText? text = some c →
      Conversation.ofText? c.toJson.compact = some c) ∧
    ∀ (tag : String) (kind : ConversationKind),
      ConversationKind.ofTag? tag = some kind ↔ tag = kind.tag := by
  refine ⟨fun c => ⟨c.ofText?_toJson, c.mem_toJson_name_iff⟩, fun text c => ?_,
    fun _ c _ => c.ofText?_toJson, fun _ _ => ConversationKind.ofTag?_eq_some_iff⟩
  simp only [Conversation.ofText?, Option.bind_eq_some_iff, Node.ofChars?_eq_some_iff,
    Conversation.ofNode?_eq_some_iff]

/-- A group without a name, read from a text that no conversation is written as: the members are in
another order and one is unknown, the name is null, the kind is an object, and the ids are spelled
in braces, in capitals and without hyphens. -/
theorem conversation_round_trip_disordered :
    let members := ["\"name\": null", "\"type\": \x7b\"group\": null\x7d", "\"topic\": [1.5e3]",
      "\"participants\": [\"0000000000000000000000000000000B\", " ++
        "\"0000000000000000000000000000000b\"]",
      "\"conversation_\\u0069d\": \"\x7b00000000-0000-0000-0000-00000000000A\x7d\""]
    let text := String.ofList ('{' :: [','].intercalate (members.map String.toList) ++ ['}'])
    let c : Conversation := ⟨⟨10⟩, .group, none, [⟨11⟩, ⟨11⟩]⟩
    Conversation.ofText? text = some c ∧ Conversation.ofText? c.toJson.compact = some c := by
  intro members text c
  have read : Conversation.ofText? text = some c := by
    rw [Conversation.ofText?, String.toList_ofList]
    decide +kernel
  exact ⟨read, conversation_round_trip.2.2.1 text c read⟩

end Parley
