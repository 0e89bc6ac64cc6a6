import Parley.Proofs.Json.Reading
import Parley.Proofs.Json.Record

/-!
# Records in either form

A record is an object with its fields as members, in any order and among others, or the array of its
fields in their declared order, from the first on. `Node.IsRecord` says which trees are records of
given fields, and `Node.HasField` what such a tree has in a field; both look at the tree alone.

They are what is collected from it: `Node.fields?` succeeds on records (`exists_fields?_iff`), and
what is then found under a name is what the tree has there (`lookup_fields?_eq_some_iff`). So a
field that is required, and one that may be left out, are read as the tree has them
(`require?_fields?_eq_some_iff`, `withDefault?_fields?_eq_some_iff`).
-/

namespace Parley.Node

/-- The tree is a record of the given fields: an object in which none of them stands twice, or an
array of no more items than fields. -/
inductive IsRecord (names : List String) : Node → Prop
  | object {members : List (String × Node)} (once : Once names members) :
    IsRecord names (ofMembers members)
  | array {items : List Node} (short : items.length ≤ names.length) : IsRecord names (.array items)

/-- What the tree has in a field: the value of the member of its name, or the item in its place. -/
inductive HasField (names : List String) (name : String) : Node → Node → Prop
  | member {members : List (String × Node)} {value : Node} (inside : (name, value) ∈ members) :
    HasField names name (ofMembers members) value
  | item {items : List Node} {value : Node} {place : Nat} (declared : names[place]? = some name)
    (given : items[place]? = some value) : HasField names name (.array items) value

variable {names : List String} {node value : Node} {name : String}
  {members found : List (String × Node)} {items : List Node}

/-- The members can be read off an object of members. -/
theorem ofMembers_injective {members others : List (String × Node)}
    (same : ofMembers members = ofMembers others) : members = others := by
  have read := members?_ofMembers members
  rw [same, members?_ofMembers] at read
  exact (Option.some.inj read).symm

/-- An object is a record if it has no member of a field twice. -/
theorem isRecord_ofMembers : IsRecord names (ofMembers members) ↔ Once names members := by
  constructor
  · intro record
    generalize tree : ofMembers members = node at record
    cases record with
    | object once => exact ofMembers_injective tree ▸ once
    | array => cases tree
  · exact .object

/-- An object has in a field what a member of its name says. -/
theorem hasField_ofMembers :
    (ofMembers members).HasField names name value ↔ (name, value) ∈ members := by
  constructor
  · intro has
    generalize tree : ofMembers members = node at has
    cases has with
    | member inside => exact ofMembers_injective tree ▸ inside
    | item => cases tree
  · exact .member

/-- An array has in a field the item in the place of the field. -/
theorem hasField_array :
    (Node.array items).HasField names name value ↔
      ∃ place : Nat, names[place]? = some name ∧ items[place]? = some value := by
  constructor
  · intro has
    generalize tree : Node.array items = node at has
    cases has with
    | member => cases tree
    | item declared given => cases tree; exact ⟨_, declared, given⟩
  · rintro ⟨place, declared, given⟩
    exact .item declared given

/-! ### What is collected from a record -/

/-- The fields of an object are its known members. -/
theorem fields?_ofMembers (names : List String) (members : List (String × Node)) :
    (ofMembers members).fields? names = known? names members := by
  have object : (ofMembers members).fields? names = (ofMembers members).members?.bind
      (known? names) := rfl
  rw [object, members?_ofMembers, Option.bind_some]

/-- Fields are collected from an object of texts as keys, or from an array. -/
theorem fields?_cases (collected : node.fields? names = some found) :
    (∃ members, node = ofMembers members ∧ known? names members = some found) ∨
      ∃ items, node = .array items ∧ items.length ≤ names.length ∧ found = names.zip items := by
  cases node with
  | array items =>
    obtain ⟨short, same⟩ := Option.ite_none_right_eq_some.mp collected
    exact .inr ⟨items, rfl, short, (Option.some.inj same).symm⟩
  | object given =>
    obtain ⟨members, object, known⟩ := Option.bind_eq_some_iff.mp collected
    exact .inl ⟨members, members?_eq_some_iff.mp object, known⟩
  | _ => cases collected

/-- Fields are collected from records, and from nothing else. -/
theorem exists_fields?_iff : (∃ found, node.fields? names = some found) ↔ node.IsRecord names := by
  constructor
  · rintro ⟨found, collected⟩
    rcases fields?_cases collected with ⟨members, rfl, known⟩ | ⟨items, rfl, short, -⟩
    · exact .object (known?_eq_some_iff.mp known).2
    · exact .array short
  · intro record
    cases record with
    | object once => exact ⟨_, (fields?_ofMembers ..).trans (known?_eq_some_iff.mpr ⟨rfl, once⟩)⟩
    | array short => exact ⟨_, if_pos short⟩

/-- What two lists have in the same place is paired. -/
theorem mem_zip_iff {α β : Type} {xs : List α} {ys : List β} {x : α} {y : β} :
    (x, y) ∈ xs.zip ys ↔ ∃ place : Nat, xs[place]? = some x ∧ ys[place]? = some y := by
  simp only [List.mem_iff_getElem?, List.getElem?_zip_eq_some]

/-- Pairs begin as the first list does, in its order. -/
theorem map_fst_zip_sublist {α β : Type} (xs : List α) (ys : List β) :
    ((xs.zip ys).map Prod.fst).Sublist xs := by
  induction xs generalizing ys with
  | nil => exact List.Sublist.refl _
  | cons x xs ih =>
    cases ys with
    | nil => exact List.nil_sublist _
    | cons y ys => exact (ih ys).cons_cons x

/-- What is found under the name of a field is what the record has there. -/
theorem lookup_fields?_eq_some_iff (distinct : names.Nodup)
    (collected : node.fields? names = some found) (listed : name ∈ names) :
    found.lookup name = some value ↔ node.HasField names name value := by
  rcases fields?_cases collected with ⟨members, rfl, known⟩ | ⟨items, rfl, -, rfl⟩
  · rw [lookup_known_eq_some_iff known listed, hasField_ofMembers]
  · have once : ((names.zip items).map Prod.fst).Nodup :=
      distinct.sublist (map_fst_zip_sublist names items)
    rw [lookup_eq_some_iff_mem once, mem_zip_iff, hasField_array]

section Read

variable {α : Type} {read : Node → Option α} {a default : α}

/-- A required field is there and is read. -/
theorem require?_fields?_eq_some_iff (distinct : names.Nodup)
    (collected : node.fields? names = some found) (listed : name ∈ names) :
    Fields.require? found name read = some a ↔
      ∃ value, node.HasField names name value ∧ read value = some a := by
  simp only [Fields.require?, Option.bind_eq_some_iff,
    lookup_fields?_eq_some_iff distinct collected listed]

/-- A field that may be left out is read if it is there. -/
theorem withDefault?_fields?_eq_some_iff (distinct : names.Nodup)
    (collected : node.fields? names = some found) (listed : name ∈ names) :
    Fields.withDefault? found name read default = some a ↔
      (∃ value, node.HasField names name value ∧ read value = some a) ∨
        (∀ value, ¬node.HasField names name value) ∧ default = a := by
  simp only [← lookup_fields?_eq_some_iff distinct collected listed]
  unfold Fields.withDefault?
  cases found.lookup name <;> simp

/-- A value that is read from something other than null is read as optional from the same. -/
theorem optional?_eq_some_iff (notNull : read .null = none) {o : Option α} :
    optional? read value = some o ↔
      (∀ a, o = some a → read value = some a) ∧ (o = none → value = .null) := by
  cases value with
  | null => cases o <;> simp [optional?, notNull]
  | _ => cases o <;> simp [optional?]

/-- A field that may be left out, or null, is a value if there is one to be read. -/
theorem withDefault?_optional?_eq_some_iff (distinct : names.Nodup)
    (collected : node.fields? names = some found) (listed : name ∈ names)
    (notNull : read .null = none) {o : Option α} :
    Fields.withDefault? found name (optional? read) none = some o ↔
      (∀ a, o = some a → ∃ value, node.HasField names name value ∧ read value = some a) ∧
        (o = none → ∀ value, node.HasField names name value → value = .null) := by
  simp only [← lookup_fields?_eq_some_iff distinct collected listed]
  unfold Fields.withDefault?
  cases found.lookup name with
  | none => cases o <;> simp
  | some value => simp [optional?_eq_some_iff notNull]

end Read

/-! ### Items and alternatives -/

/-- Items are read one by one. -/
theorem mapM_eq_some_iff {α : Type} {read : Node → Option α} {values : List α} :
    items.mapM read = some values ↔
      List.Forall₂ (fun item value => read item = some value) items values := by
  induction items generalizing values with
  | nil => simp [eq_comm]
  | cons item items ih =>
    simp only [List.mapM_cons, Option.bind_eq_bind, Option.bind_eq_some_iff, ih,
      List.forall₂_cons_left_iff, Option.pure_def, Option.some.injEq]
    constructor
    · rintro ⟨value, first, rest, later, rfl⟩
      exact ⟨value, rest, first, later, rfl⟩
    · rintro ⟨value, rest, first, later, rfl⟩
      exact ⟨value, first, rest, later, rfl⟩

/-- The items of an array are read one by one. -/
theorem items?_mapM_eq_some_iff {α : Type} {read : Node → Option α} {values : List α} :
    node.items?.bind (·.mapM read) = some values ↔
      ∃ items, node = .array items ∧
        List.Forall₂ (fun item value => read item = some value) items values := by
  have array (items : List Node) : node.items? = some items ↔ node = .array items := by
    cases node <;> simp [items?]
  simp only [Option.bind_eq_some_iff, array, mapM_eq_some_iff]

/-- The tree names an alternative without content. -/
inductive IsAlternative (tag : String) : Node → Prop
  | text : IsAlternative tag (.text (.ok tag))
  | member : IsAlternative tag (ofMembers [(tag, .null)])

/-- A tag is read off the alternatives that bear it, and off nothing else. -/
theorem alternative?_eq_some_iff {tag : String} :
    node.alternative? = some tag ↔ node.IsAlternative tag := by
  constructor
  · intro named
    unfold alternative? at named
    split at named
    case h_1 value =>
      have same : (Node.text value).text? = some tag := named
      exact text?_eq_some_iff.mp same ▸ .text
    case h_2 => exact named ▸ .member
    case h_3 => cases named
  · rintro (_ | _) <;> rfl

/-! ### Trees of values -/

/-- The items of a written array are written one by one. -/
theorem toItems_eq_map (values : List Json) : Json.toItems values = values.map Json.toNode := by
  induction values with
  | nil => rfl
  | cons value values ih => rw [Json.toItems, ih, List.map_cons]

/-- The node of a written object is an object of the written members. -/
theorem toNode_object (members : List (String × Json)) :
    (Json.object members).toNode
      = ofMembers (members.map fun (key, value) => (key, value.toNode)) := by
  rw [Json.toNode, ofMembers]
  congr 1
  induction members with
  | nil => rfl
  | cons member members ih =>
    obtain ⟨key, value⟩ := member
    simp [Json.toMembers, ih]

end Parley.Node
