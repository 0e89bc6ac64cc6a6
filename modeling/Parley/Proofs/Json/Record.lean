import Mathlib.Data.List.Nodup
import Parley.Json.Record

/-!
# Members of an object

What reading a record from an object asks of the object's members, in terms of membership: keys
are texts, a known key stands once (`Node.Once`), and a required field is a member with its name
and a value that is read (`require?_eq_some_iff`). The order of the members plays no part.
-/

namespace Parley

namespace Node

/-- The object of members whose keys are texts. -/
def ofMembers (members : List (String × Node)) : Node :=
  .object (members.map fun (key, value) => (some key, value))

/-- No member of one of the names stands twice. -/
def Once (names : List String) (members : List (String × Node)) : Prop :=
  ∀ name ∈ names, (members.map Prod.fst).count name ≤ 1

/-- Members are read off the object made of them. -/
theorem members?_ofMembers (members : List (String × Node)) :
    (ofMembers members).members? = some members := by
  simp only [ofMembers, members?]
  induction members with
  | nil => rfl
  | cons member rest ih => simp [List.mapM_cons, ih]

/-- Members whose keys can all be read are members with readable keys. -/
theorem eq_map_of_mapM_key {given : List (Option String × Node)} {members : List (String × Node)}
    (read : given.mapM (fun (key, value) => key.map (·, value)) = some members) :
    given = members.map fun (key, value) => (some key, value) := by
  induction given generalizing members with
  | nil =>
    obtain rfl : [] = members := by simpa using read
    rfl
  | cons member rest ih =>
    obtain ⟨key, value⟩ := member
    simp only [List.mapM_cons, Option.bind_eq_bind, Option.bind_eq_some_iff,
      Option.map_eq_some_iff] at read
    obtain ⟨_, ⟨name, rfl, rfl⟩, later, found, made⟩ := read
    obtain rfl := Option.some.inj made
    rw [ih found]
    rfl

/-- Members are read off the objects made of them, and off nothing else. -/
theorem members?_eq_some_iff {node : Node} {members : List (String × Node)} :
    node.members? = some members ↔ node = ofMembers members := by
  constructor
  · intro read
    cases node with
    | object given => rw [eq_map_of_mapM_key read, ofMembers]
    | _ => cases read
  · rintro rfl
    exact members?_ofMembers members

/-- The known members have different keys exactly if no known name stands twice. -/
theorem nodup_keys_iff_once {names : List String} {members : List (String × Node)} :
    ((members.filter fun (key, _) => key ∈ names).map Prod.fst).Nodup ↔ Once names members := by
  have keys : (members.filter fun (key, _) => key ∈ names).map Prod.fst
      = (members.map Prod.fst).filter (· ∈ names) := by
    rw [List.filter_map]
    rfl
  rw [keys, List.nodup_iff_count_le_one]
  constructor
  · intro once name listed
    have count := once name
    rwa [List.count_filter (by simpa using listed)] at count
  · intro once name
    by_cases listed : name ∈ names
    · rw [List.count_filter (by simpa using listed)]
      exact once name listed
    · have absent : name ∉ (members.map Prod.fst).filter (· ∈ names) := fun inside =>
        listed (by simpa using (List.mem_filter.mp inside).2)
      rw [List.count_eq_zero.mpr absent]
      omega

/-- The known members are those of known names, unless such a name stands twice. -/
theorem known?_eq_some_iff {names : List String} {members known : List (String × Node)} :
    known? names members = some known
      ↔ known = members.filter (fun (key, _) => key ∈ names) ∧ Once names members := by
  unfold known?
  dsimp only
  split
  case isTrue distinct => simp [nodup_keys_iff_once.mp distinct, eq_comm]
  case isFalse twice =>
    have notOnce : ¬ Once names members := fun once => twice (nodup_keys_iff_once.mpr once)
    simp [notOnce]

/-- A text is read off its own node, and off nothing else. -/
theorem text?_eq_some_iff {node : Node} {text : String} :
    node.text? = some text ↔ node = .text (.ok text) := by
  cases node with
  | text value => cases value <;> simp [text?, Except.toOption]
  | _ => simp [text?]

/-! ### Fields -/

/-- Where names differ, what is found under a name is what stands there. -/
theorem lookup_eq_some_iff_mem {α : Type} {members : List (String × α)}
    (once : (members.map Prod.fst).Nodup) {name : String} {value : α} :
    members.lookup name = some value ↔ (name, value) ∈ members := by
  induction members with
  | nil => simp
  | cons member rest ih =>
    obtain ⟨key, first⟩ := member
    simp only [List.map_cons, List.nodup_cons] at once
    by_cases same : name = key
    · subst same
      have absent : (name, value) ∉ rest := fun inside =>
        once.1 (List.mem_map_of_mem (f := Prod.fst) inside)
      simp [absent, eq_comm]
    · have apart : (name == key) = false := by simpa using same
      simp [List.lookup_cons, apart, same, ih once.2]

section Known

variable {names : List String} {members known : List (String × Node)}

/-- The known members are the members of known names. -/
theorem mem_known_iff (found : known? names members = some known) {name : String} {node : Node} :
    (name, node) ∈ known ↔ (name, node) ∈ members ∧ name ∈ names := by
  obtain ⟨rfl, -⟩ := known?_eq_some_iff.mp found
  simp [List.mem_filter]

/-- What is found under a known name is what the member of that name says. -/
theorem lookup_known_eq_some_iff (found : known? names members = some known) {name : String}
    (listed : name ∈ names) {node : Node} :
    known.lookup name = some node ↔ (name, node) ∈ members := by
  obtain ⟨kept, once⟩ := known?_eq_some_iff.mp found
  have distinct : (known.map Prod.fst).Nodup := kept ▸ nodup_keys_iff_once.mpr once
  rw [lookup_eq_some_iff_mem distinct, mem_known_iff found]
  simp [listed]

/-- A required field is a member of its name whose value is read. -/
theorem require?_eq_some_iff {α : Type} (found : known? names members = some known) {name : String}
    (listed : name ∈ names) {f : Node → Option α} {value : α} :
    Fields.require? known name f = some value
      ↔ ∃ node, (name, node) ∈ members ∧ f node = some value := by
  simp only [Fields.require?, Option.bind_eq_some_iff, lookup_known_eq_some_iff found listed]

end Known

end Node

end Parley
