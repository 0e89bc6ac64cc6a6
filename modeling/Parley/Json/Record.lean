import Parley.Json.Node

/-!
# Records in JSON

A record is written as an object or as the array of its fields in their declared order.
`Node.fields?` collects the fields a record knows from either form: a repeated field is refused,
an unknown member is ignored, and an array may be shorter but not longer than the record.
-/

namespace Parley.Node

/-- The members of an object whose keys are all texts. -/
def members? : Node → Option (List (String × Node))
  | .object members => members.mapM fun (key, value) => key.map (·, value)
  | _ => none

/-- The members that a record knows, each at most once. -/
def known? (names : List String) (members : List (String × Node)) :
    Option (List (String × Node)) :=
  let known := members.filter fun (key, _) => key ∈ names
  if (known.map Prod.fst).Nodup then some known else none

/-- The fields of a record in either form. -/
def fields? (names : List String) : Node → Option (List (String × Node))
  | .array items => if items.length ≤ names.length then some (names.zip items) else none
  | node => node.members?.bind (known? names)

end Parley.Node

namespace Parley.Fields

/-- The field of a name, which must be there. -/
def require? {α : Type} (fields : List (String × Node)) (name : String)
    (read : Node → Option α) : Option α :=
  (fields.lookup name).bind read

/-- The field of a name, or a value in its place when it is absent. -/
def withDefault? {α : Type} (fields : List (String × Node)) (name : String)
    (read : Node → Option α) (default : α) : Option α :=
  match fields.lookup name with
  | some node => read node
  | none => some default

end Parley.Fields
