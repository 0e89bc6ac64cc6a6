import Parley.Proofs.Json.Reading

/-!
# Values read back

A value whose numbers are integers of 64 bits is read back as itself from its compact text, unless
it nests too deep (`Json.parse?_compact`). Other numbers may be read as equal ones in another form,
and so are left out here.
-/

namespace Parley

/-- An integer is read back from its numeral. -/
theorem Numeral.integer?_toNumeral (value : Int) :
    (Number.integer value).toNumeral.integer? = some value := by
  change (if decide (value < 0) = true then
      (if value.natAbs = 0 then none else some (-(value.natAbs : Int)))
    else some (value.natAbs : Int)) = some value
  by_cases negative : value < 0
  · have nonzero : value.natAbs ≠ 0 := by omega
    rw [if_pos (decide_eq_true negative), if_neg nonzero,
      Int.ofNat_natAbs_of_nonpos (Int.le_of_lt negative), Int.neg_neg]
  · rw [if_neg (by simpa using negative), Int.natAbs_of_nonneg (Int.not_lt.mp negative)]

/-- Whether a number is an integer that fits 64 bits, signed or unsigned. -/
def Number.isWord : Number → Bool
  | .integer value => Word.isSigned64 value || Word.isUnsigned64 value
  | .decimal _ _ => false

/-- An integer that fits a word is read back from its numeral. -/
theorem Numeral.number?_toNumeral {value : Number} (word : value.isWord = true) :
    value.toNumeral.number? = some value := by
  cases value with
  | integer value =>
      rw [Numeral.number?, Numeral.integer?_toNumeral]
      exact if_pos (by simpa [Number.isWord] using word)
  | decimal mantissa places => cases word

namespace Json

mutual

/-- Whether all numbers of a value are integers that fit 64 bits. -/
def isWhole : Json → Bool
  | .number value => value.isWord
  | .array items => areWhole items
  | .object members => haveWhole members
  | _ => true

/-- Whether this is so of all items. -/
def areWhole : List Json → Bool
  | [] => true
  | item :: rest => isWhole item && areWhole rest

/-- Whether this is so of the values of all members. -/
def haveWhole : List (String × Json) → Bool
  | [] => true
  | (_, value) :: rest => isWhole value && haveWhole rest

end

mutual

/-- The tree of a value stands for the value. -/
theorem ofNode?_toNode {value : Json} (whole : value.isWhole = true) :
    ofNode? value.toNode = some value := by
  match value with
  | .null => rfl
  | .bool _ => rfl
  | .text _ => rfl
  | .number n =>
      rw [toNode, ofNode?, Numeral.number?_toNumeral whole]
      rfl
  | .array items =>
      rw [toNode, ofNode?, ofItems?_toItems whole]
      rfl
  | .object members =>
      rw [toNode, ofNode?, ofMembers?_toMembers whole]
      rfl

/-- The trees of items stand for the items. -/
theorem ofItems?_toItems {items : List Json} (whole : areWhole items = true) :
    ofItems? (toItems items) = some items := by
  match items with
  | [] => rfl
  | item :: rest =>
      obtain ⟨first, others⟩ := Bool.and_eq_true_iff.mp whole
      rw [toItems, ofItems?, ofNode?_toNode first, ofItems?_toItems others]
      rfl

/-- The trees of members stand for the members. -/
theorem ofMembers?_toMembers {members : List (String × Json)} (whole : haveWhole members = true) :
    ofMembers? (toMembers members) = some members := by
  match members with
  | [] => rfl
  | (key, value) :: rest =>
      obtain ⟨first, others⟩ := Bool.and_eq_true_iff.mp whole
      rw [toMembers, ofMembers?, ofNode?_toNode first, ofMembers?_toMembers others]
      rfl

end

/-- A value is read back from its compact text. -/
theorem parse?_compact {value : Json} (whole : value.isWhole = true)
    (shallow : value.toNode.depth ≤ depthLimit) : parse? value.compact = some value := by
  rw [parse?, compact, String.toList_ofList, Node.ofChars?_render]
  exact (if_pos shallow).trans (ofNode?_toNode whole)

end Json

end Parley
