import Parley.Proofs.Json.Accepted
import Parley.Proofs.Text.Utf8

/-!
# Reading what is written

The compact text of a JSON value is read as the tree of that value: as characters
(`Node.ofChars?_render`) and as bytes (`Node.ofBytes?_encode_render`). It is so because by the
grammar the text stands for the tree (`Json.standsFor_render`).
-/

namespace Parley

namespace Number

/-- The numeral a number is written as. -/
def toNumeral : Number → Numeral
  | .integer value => ⟨decide (value < 0), value.natAbs, none, none⟩
  | .decimal mantissa places =>
    ⟨decide (mantissa < 0), mantissa.natAbs / Decimal.scale places,
      some (mantissa.natAbs % Decimal.scale places, max places 1), none⟩

end Number

namespace Json

mutual

/-- The tree of a value's text. -/
def toNode : Json → Node
  | .null => .null
  | .bool value => .bool value
  | .number value => .number value.toNumeral
  | .text value => .text (.ok value)
  | .array items => .array (toItems items)
  | .object members => .object (toMembers members)

/-- The trees of items. -/
def toItems : List Json → List Node
  | [] => []
  | item :: rest => toNode item :: toItems rest

/-- The trees of members. -/
def toMembers : List (String × Json) → List (Option String × Node)
  | [] => []
  | (key, value) :: rest => (some key, toNode value) :: toMembers rest

end

/-! ### String literals and numerals -/

/-- A character stands in a literal as a letter after a backslash, as the digits of its code or as
itself. -/
theorem charText_cases (c : Char) :
    (∃ letter, charText c = ['\\', letter] ∧ (letter, c) ∈ letters)
      ∨ (charText c = ['\\', 'u', '0', '0', Nat.digitChar (c.toNat / 16),
          Nat.digitChar (c.toNat % 16)] ∧ c.toNat < 0x20)
      ∨ (charText c = [c] ∧ c ≠ '"' ∧ c ≠ '\\' ∧ 0x20 ≤ c.toNat) := by
  unfold charText
  split
  iterate 7 exact .inl ⟨_, rfl, by simp [letters]⟩
  rename_i quote backslash _ _ _ _ _
  split
  case isTrue control => exact .inr (.inl ⟨rfl, control⟩)
  case isFalse plain => exact .inr (.inr ⟨rfl, quote, backslash, Nat.not_lt.mp plain⟩)

/-- Two digits of a number, led by zeros up to four digits. -/
theorem number?_two_digits {n : Nat} (small : n < 256) :
    Hex.number? ['0', '0', Nat.digitChar (n / 16), Nat.digitChar (n % 16)] = some n := by
  have zero : Hex.value? '0' = some 0 := by decide
  have high : Hex.value? (Nat.digitChar (n / 16)) = some (n / 16) :=
    Hex.value?_digitChar (by omega)
  have low : Hex.value? (Nat.digitChar (n % 16)) = some (n % 16) :=
    Hex.value?_digitChar (by omega)
  have joined : 16 * (n / 16) + n % 16 = n := by omega
  simp [Hex.number?, zero, high, low, joined]

/-- The piece that a character is written as stands for it. -/
theorem exists_piece_charText (c : Char) : ∃ piece : Piece, piece.Spells (charText c) ∧
    ∀ rest, Piece.text? (piece :: rest) = (Piece.text? rest).map (c :: ·) := by
  rcases charText_cases c with ⟨letter, text, listed⟩ | ⟨text, control⟩ |
    ⟨text, quote, backslash, plain⟩
  · exact ⟨.char c, text ▸ .letter listed, fun _ => rfl⟩
  · have digits : Piece.Spells (.unit c.toNat) (charText c) :=
      text ▸ .digits rfl (number?_two_digits (by omega))
    have noHigh : ¬Piece.IsHigh c.toNat := fun half => absurd half.1 (by omega)
    have noLow : ¬Piece.IsLow c.toNat := fun half => absurd half.1 (by omega)
    refine ⟨.unit c.toNat, digits, fun rest => ?_⟩
    rw [Piece.text?_of_plain noHigh noLow, Char.ofNat_toNat]
  · exact ⟨.char c, text ▸ .plain quote backslash plain, fun _ => rfl⟩

/-- Characters as they are written are pieces that stand for these characters. -/
theorem exists_pieces_flatMap_charText (text : List Char) :
    ∃ pieces, Pieces pieces (text.flatMap charText) ∧ Piece.text? pieces = some text := by
  induction text with
  | nil => exact ⟨[], .nil, rfl⟩
  | cons c rest ih =>
    obtain ⟨piece, spelled, first⟩ := exists_piece_charText c
    obtain ⟨pieces, others, stands⟩ := ih
    exact ⟨piece :: pieces, others.cons spelled, by rw [first, stands]; rfl⟩

/-- A text between quotes stands for itself. -/
theorem exists_stringLiteral_quote (text : String) :
    ∃ pieces, StringLiteral pieces (quote text) ∧ Piece.value pieces = .ok text := by
  obtain ⟨pieces, spelled, stands⟩ := exists_pieces_flatMap_charText text.toList
  refine ⟨pieces, .quoted spelled, ?_⟩
  rw [Piece.value, stands]
  exact congrArg Except.ok String.ofList_toList

/-- A key is written without blanks. -/
theorem key_quote (key : String) : Key (some key) (quote key) := by
  obtain ⟨pieces, quoted, stands⟩ := exists_stringLiteral_quote key
  simpa [stands, Except.toOption] using Key.mk .nil quoted .nil

end Json

/-- A number is written as its numeral is spelled. -/
theorem Number.spells_render (value : Number) : value.toNumeral.Spells value.render := by
  cases value with
  | integer value =>
    have text : Decimal.signed value
        = Json.wholeText (decide (value < 0)) value.natAbs ++ [] ++ [] := by
      cases value <;> simp [Decimal.signed, Json.wholeText, Int.negSucc_lt_zero]
    rw [render, text]
    exact .parts .absent .absent
  | decimal mantissa places =>
    have small : mantissa.natAbs % Decimal.scale places < Decimal.scale places :=
      Nat.mod_lt _ (Decimal.scale_pos places)
    have digits : Json.Digits (Decimal.padded places (mantissa.natAbs % Decimal.scale places)) :=
      ⟨Decimal.padded_ne_nil _ _, fun _ => Decimal.isDigit_of_mem_padded⟩
    have fraction := Json.Fraction.point digits
    rw [Decimal.accumulate_padded, Decimal.length_padded small] at fraction
    have text : (Number.decimal mantissa places).render =
        Json.wholeText (decide (mantissa < 0)) (mantissa.natAbs / Decimal.scale places) ++
          '.' :: Decimal.padded places (mantissa.natAbs % Decimal.scale places) ++ [] := by
      simp [render, Json.wholeText]
    rw [text]
    exact .parts fraction .absent

namespace Json

/-! ### Values -/

mutual

/-- The text of a value stands for its tree. -/
theorem standsFor_render (value : Json) : StandsFor value.render (.value value.toNode) := by
  match value with
  | .null => exact .null
  | .bool true => exact .isTrue
  | .bool false => exact .isFalse
  | .number n => exact .number n.spells_render
  | .text literal =>
    obtain ⟨pieces, quoted, stands⟩ := exists_stringLiteral_quote literal
    rw [toNode, ← stands]
    exact .literal quoted
  | .array [] => exact .noItems .nil
  | .array (item :: rest) =>
    obtain ⟨text, written, stands⟩ := standsFor_renderItems (item :: rest) (by simp)
    rw [render, written]
    exact .array stands
  | .object [] => exact .noMembers .nil
  | .object (member :: rest) =>
    obtain ⟨text, written, stands⟩ := standsFor_renderMembers (member :: rest) (by simp)
    rw [render, written]
    exact .object stands

/-- What is written of items before the closing bracket stands for their trees. -/
theorem standsFor_renderItems (items : List Json) (some_item : items ≠ []) :
    ∃ text, renderItems items = text ++ [']'] ∧ StandsFor text (.items (toItems items)) := by
  match items with
  | [] => contradiction
  | [item] => exact ⟨_, rfl, .firstItem (standsFor_render item).element_of_value⟩
  | item :: next :: more =>
    have first := (standsFor_render item).element_of_value
    obtain ⟨text, written, stands⟩ := standsFor_renderItems (next :: more) (by simp)
    exact ⟨item.render ++ ',' :: text, by simp [renderItems, written], stands.items_cons first⟩

/-- What is written of members before the closing brace stands for their trees. -/
theorem standsFor_renderMembers (members : List (String × Json)) (some_member : members ≠ []) :
    ∃ text, renderMembers members = text ++ ['}'] ∧
      StandsFor text (.members (toMembers members)) := by
  match members with
  | [] => contradiction
  | [(key, value)] =>
    have member := StandsFor.member (key_quote key) (standsFor_render value).element_of_value
    exact ⟨_, by simp [renderMembers], .firstMember member⟩
  | (key, value) :: next :: more =>
    have first := StandsFor.member (key_quote key) (standsFor_render value).element_of_value
    obtain ⟨text, written, stands⟩ := standsFor_renderMembers (next :: more) (by simp)
    exact ⟨quote key ++ ':' :: value.render ++ ',' :: text, by simp [renderMembers, written],
      stands.members_cons first⟩

end

end Json

/-- A value is read from its compact text. -/
theorem Node.ofChars?_render (value : Json) : Node.ofChars? value.render = some value.toNode :=
  Node.ofChars?_eq_some_iff.mpr (Json.standsFor_render value).element_of_value

/-- A value is read from the bytes of its compact text. -/
theorem Node.ofBytes?_encode_render (value : Json) :
    Node.ofBytes? (Utf8.encode value.render) = some value.toNode := by
  rw [Node.ofBytes?, Utf8.symbols_encode]
  exact Node.ofChars?_render value

end Parley
