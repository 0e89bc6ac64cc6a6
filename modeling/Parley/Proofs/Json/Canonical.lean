import Mathlib.Data.String.Basic
import Parley.Proofs.Json.Value

/-!
# Canonical values

The canonical form of a value has the members of every object in the order of their keys, each key
once (`Json.sorted_canonical`), and a value that is like that already is its own canonical form
(`Json.Sorted.canonical_eq`). So canonical forms are the values in which nothing but what is said
can differ.
-/

namespace Parley.Json

/-- What holds of a value if it holds of the items and members in it holds of every value. -/
@[elab_as_elim]
theorem induction {motive : Json → Prop} (null : motive .null) (bool : ∀ b, motive (.bool b))
    (number : ∀ n, motive (.number n)) (text : ∀ s, motive (.text s))
    (array : ∀ items, (∀ item ∈ items, motive item) → motive (.array items))
    (object : ∀ members : List (String × Json), (∀ m ∈ members, motive m.2) →
      motive (.object members))
    (value : Json) : motive value :=
  match value with
  | .null => null
  | .bool b => bool b
  | .number n => number n
  | .text s => text s
  | .array items => array items fun item _ =>
      induction null bool number text array object item
  | .object members => object members fun m _ =>
      induction null bool number text array object m.2
termination_by sizeOf value
decreasing_by
  · have inside : sizeOf item < sizeOf items := List.sizeOf_lt_of_mem ‹_›
    simp only [Json.array.sizeOf_spec]
    omega
  · have inside : sizeOf m < sizeOf members := List.sizeOf_lt_of_mem ‹_›
    have part : sizeOf m = 1 + sizeOf m.1 + sizeOf m.2 := by cases m; rfl
    simp only [Json.object.sizeOf_spec]
    omega

/-- Members in the order of their keys, each key once. -/
def Ascending (members : List (String × Json)) : Prop :=
  members.Pairwise fun m n => m.1 < n.1

/-- A value in which the members of every object are in the order of their keys, each key once. -/
inductive Sorted : Json → Prop where
  | null : Sorted .null
  | bool (b : Bool) : Sorted (.bool b)
  | number (n : Number) : Sorted (.number n)
  | text (s : String) : Sorted (.text s)
  | array {items : List Json} (each : ∀ item ∈ items, Sorted item) : Sorted (.array items)
  | object {members : List (String × Json)} (ascending : Ascending members)
      (each : ∀ m ∈ members, Sorted m.2) : Sorted (.object members)

/-! ### Members put in their places -/

/-- Putting a member in its place brings in no other. -/
theorem mem_insertMember {key : String} {value : Json} {members : List (String × Json)}
    {m : String × Json} (inside : m ∈ insertMember key value members) :
    m = (key, value) ∨ m ∈ members := by
  induction members with
  | nil => exact .inl (List.mem_singleton.mp inside)
  | cons first rest ih =>
    rw [insertMember] at inside
    split_ifs at inside
    · exact List.mem_cons.mp inside
    · exact (List.mem_cons.mp inside).imp_right (List.mem_cons_of_mem _)
    · rcases List.mem_cons.mp inside with same | later
      · exact .inr (same ▸ List.mem_cons_self)
      · exact (ih later).imp_right (List.mem_cons_of_mem _)

/-- Members stay in order when one more is put in its place. -/
theorem Ascending.insertMember {members : List (String × Json)} (ascending : Ascending members)
    (key : String) (value : Json) : Ascending (insertMember key value members) := by
  induction members with
  | nil => exact List.pairwise_singleton _ _
  | cons first rest ih =>
    obtain ⟨least, others⟩ := List.pairwise_cons.mp ascending
    rw [Json.insertMember]
    split_ifs with before same
    · refine List.pairwise_cons.mpr ⟨fun m inside => ?_, ascending⟩
      rcases List.mem_cons.mp inside with rfl | later
      · exact before
      · exact before.trans (least m later)
    · subst same
      exact List.pairwise_cons.mpr ⟨least, others⟩
    · refine List.pairwise_cons.mpr ⟨fun m inside => ?_, ih others⟩
      rcases mem_insertMember inside with rfl | later
      · exact lt_of_le_of_ne (not_lt.mp before) (Ne.symm same)
      · exact least m later

/-- A member whose key comes after all others is put at the end. -/
theorem insertMember_of_lt {key : String} {value : Json} {members : List (String × Json)}
    (last : ∀ m ∈ members, m.1 < key) :
    insertMember key value members = members ++ [(key, value)] := by
  induction members with
  | nil => rfl
  | cons first rest ih =>
    have before : first.1 < key := last first List.mem_cons_self
    rw [insertMember, if_neg before.not_gt, if_neg before.ne',
      ih fun m inside => last m (List.mem_cons_of_mem _ inside)]
    rfl

/-! ### Canonical forms -/

/-- The items of a canonical form are the canonical forms of the items. -/
theorem canonicalItems_eq_map (items : List Json) : canonicalItems items = items.map canonical := by
  induction items with
  | nil => rfl
  | cons item rest ih => rw [canonicalItems, ih, List.map_cons]

/-- What holds of the members read so far, and of the canonical forms of those to come, holds of the
members of the canonical form. -/
theorem forall_canonicalMembers {P : Json → Prop} {sorted members : List (String × Json)}
    (earlier : ∀ m ∈ sorted, P m.2) (later : ∀ m ∈ members, P m.2.canonical) :
    ∀ m ∈ canonicalMembers sorted members, P m.2 := by
  induction members generalizing sorted with
  | nil => exact earlier
  | cons first rest ih =>
    refine ih (fun m inside => ?_) fun m inside => later m (List.mem_cons_of_mem _ inside)
    rcases mem_insertMember inside with rfl | old
    · exact later first List.mem_cons_self
    · exact earlier m old

/-- The members of a canonical form are in order. -/
theorem Ascending.canonicalMembers {sorted : List (String × Json)} (ascending : Ascending sorted)
    (members : List (String × Json)) : Ascending (canonicalMembers sorted members) := by
  induction members generalizing sorted with
  | nil => exact ascending
  | cons first rest ih => exact ih (ascending.insertMember first.1 first.2.canonical)

/-- Members that are in order already, with values in canonical form, stay as they are. -/
theorem canonicalMembers_of_ascending {sorted members : List (String × Json)}
    (ascending : Ascending (sorted ++ members)) (each : ∀ m ∈ members, m.2.canonical = m.2) :
    canonicalMembers sorted members = sorted ++ members := by
  induction members generalizing sorted with
  | nil => exact (List.append_nil _).symm
  | cons first rest ih =>
    have last : ∀ m ∈ sorted, m.1 < first.1 := fun m inside =>
      (List.pairwise_append.mp ascending).2.2 m inside first List.mem_cons_self
    rw [List.append_cons] at ascending ⊢
    rw [canonicalMembers, each first List.mem_cons_self, insertMember_of_lt last]
    exact ih ascending fun m inside => each m (List.mem_cons_of_mem _ inside)

/-- The canonical form of a value is sorted. -/
theorem sorted_canonical (value : Json) : value.canonical.Sorted := by
  induction value using induction with
  | null => exact .null
  | bool b => exact .bool b
  | number n => exact .number n
  | text s => exact .text s
  | array items ih =>
    rw [canonical, canonicalItems_eq_map]
    exact .array (List.forall_mem_map.mpr ih)
  | object members ih =>
    exact .object (Ascending.canonicalMembers List.Pairwise.nil members)
      (forall_canonicalMembers (by simp) ih)

/-- A sorted value is its own canonical form. -/
theorem Sorted.canonical_eq {value : Json} (sorted : value.Sorted) : value.canonical = value := by
  induction sorted with
  | null => rfl
  | bool b => rfl
  | number n => rfl
  | text s => rfl
  | array each ih =>
    rw [canonical, canonicalItems_eq_map, List.map_congr_left ih, List.map_id']
  | object ascending each ih =>
    rw [canonical, canonicalMembers_of_ascending (List.nil_append _ ▸ ascending) ih,
      List.nil_append]

/-! ### Numbers of canonical forms -/

/-- Items are whole exactly if each of them is. -/
theorem areWhole_iff {items : List Json} :
    areWhole items = true ↔ ∀ item ∈ items, item.isWhole = true := by
  induction items with
  | nil => simp [areWhole]
  | cons item rest ih => simp [areWhole, ih]

/-- Members are whole exactly if the value of each of them is. -/
theorem haveWhole_iff {members : List (String × Json)} :
    haveWhole members = true ↔ ∀ m ∈ members, m.2.isWhole = true := by
  induction members with
  | nil => simp [haveWhole]
  | cons m rest ih => simp [haveWhole, ih]

/-- The canonical form of a whole value is whole. -/
theorem isWhole_canonical {value : Json} (whole : value.isWhole = true) :
    value.canonical.isWhole = true := by
  induction value using induction with
  | null | bool _ | number _ | text _ => exact whole
  | array items ih =>
    have each := areWhole_iff.mp whole
    rw [canonical, isWhole, canonicalItems_eq_map, areWhole_iff]
    exact List.forall_mem_map.mpr fun item inside => ih item inside (each item inside)
  | object members ih =>
    have each := haveWhole_iff.mp whole
    rw [canonical, isWhole, haveWhole_iff]
    exact forall_canonicalMembers (P := fun value => value.isWhole = true) (by simp)
      fun m inside => ih m inside (each m inside)

end Parley.Json
