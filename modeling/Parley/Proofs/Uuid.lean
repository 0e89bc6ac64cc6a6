import Mathlib.Data.List.Basic
import Parley.Proofs.Json.Record
import Parley.Proofs.Text.Digits
import Parley.Uuid

/-!
# Spellings of ids

An id is spelled by its thirty-two digits, each in either case, alone or in hyphenated groups, and
the groups may stand in braces or after `urn:uuid:` (`Uuid.Spells`). The texts read as an id are its
spellings (`ofChars?_eq_some_iff`): the digits stand for its bits, and the hyphens go in and out at
the same places. The canonical form is one of the spellings, so it is read back (`parse?_text`).
-/

namespace Parley

namespace Uuid

/-! ### Digits -/

/-- No digit is written for an empty count. -/
@[simp]
theorem lowDigits_zero (n : Nat) : lowDigits n 0 = [] := rfl

/-- The highest digit of a number stands first. -/
theorem lowDigits_succ (n count : Nat) :
    lowDigits n (count + 1) = Nat.digitChar (n / 16 ^ count % 16) :: lowDigits n count := rfl

/-- As many digits are written as asked for. -/
@[simp]
theorem length_lowDigits (n count : Nat) : (lowDigits n count).length = count := by
  induction count with
  | zero => rfl
  | succ count ih => simp [lowDigits_succ, ih]

/-- An id has thirty-two digits. -/
@[simp]
theorem length_digits (id : Uuid) : id.digits.length = 32 := length_lowDigits _ _

/-- A run of digits is read, onto what was read before it, as the number whose low digits it holds
and whose other digits were read before. -/
theorem foldlM_digits_eq_some_iff {text : List Char} {read n : Nat} :
    text.foldlM (fun n c => (Hex.value? c).map (16 * n + ·)) read = some n
      ↔ text.map Char.toLower = lowDigits n text.length ∧ n / 16 ^ text.length = read := by
  induction text generalizing read with
  | nil => simp [eq_comm]
  | cons c rest ih =>
    have digit : n / 16 ^ rest.length % 16 < 16 := Nat.mod_lt _ (by omega)
    have higher : n / 16 ^ (rest.length + 1) = n / 16 ^ rest.length / 16 := by
      rw [Nat.pow_succ, Nat.div_div_eq_div_mul]
    simp only [List.foldlM_cons, Option.bind_eq_bind, Option.bind_eq_some_iff,
      Option.map_eq_some_iff, ih, Hex.value?_eq_some_iff, List.map_cons, List.length_cons,
      lowDigits_succ, List.cons.injEq, higher]
    constructor
    · rintro ⟨_, ⟨d, ⟨small, first⟩, rfl⟩, later, whole⟩
      have split : n / 16 ^ rest.length % 16 = d ∧ n / 16 ^ rest.length / 16 = read := by omega
      exact ⟨⟨split.1 ▸ first, later⟩, split.2⟩
    · rintro ⟨⟨first, later⟩, whole⟩
      exact ⟨_, ⟨_, ⟨digit, first⟩, rfl⟩, later, by omega⟩

/-- Thirty-two digits, in either case, are read as the id that has them. -/
theorem ofDigits?_eq_some_iff {text : List Char} {id : Uuid} :
    ofDigits? text = some id ↔ text.map Char.toLower = id.digits := by
  have size : 16 ^ 32 = 2 ^ 128 := by decide
  rw [ofDigits?, Option.ite_none_right_eq_some, Option.map_eq_some_iff]
  simp only [Hex.number?, foldlM_digits_eq_some_iff]
  constructor
  · rintro ⟨long, n, ⟨lower, whole⟩, rfl⟩
    have small : n < 2 ^ 128 := by
      rw [long, size] at whole
      exact Nat.lt_of_div_eq_zero (by decide) whole
    have index : Uuid.index ⟨BitVec.ofNat 128 n⟩ = n := by
      rw [index, BitVec.toNat_ofNat, Nat.mod_eq_of_lt small]
    rw [lower, long, digits, index]
  · intro lower
    have long : text.length = 32 := by
      rw [← List.length_map (f := Char.toLower), lower, length_digits]
    refine ⟨long, id.index, ⟨by rw [lower, long, digits], ?_⟩, by simp [index]⟩
    rw [long, size]
    exact Nat.div_eq_of_lt id.bits.isLt

/-! ### Hyphens -/

/-- A hyphen stands between groups, so there is one less than groups. -/
theorem length_hyphenate {sizes : List Nat} (some_size : sizes ≠ []) {text : List Char}
    (long : sizes.sum ≤ text.length) :
    (hyphenate sizes text).length + 1 = text.length + sizes.length := by
  induction sizes generalizing text with
  | nil => contradiction
  | cons size sizes ih =>
    cases sizes with
    | nil => rfl
    | cons next more =>
      simp only [List.sum_cons] at long
      have rest : (next :: more).sum ≤ (text.drop size).length := by simp; omega
      have later := ih (by simp) rest
      simp [hyphenate] at later ⊢
      omega

/-- Hyphens that were put in are taken out again. -/
theorem unhyphenate?_hyphenate (sizes : List Nat) {text : List Char}
    (long : sizes.sum ≤ text.length) :
    unhyphenate? sizes (hyphenate sizes text) = some text := by
  induction sizes generalizing text with
  | nil => rfl
  | cons size sizes ih =>
    cases sizes with
    | nil => rfl
    | cons next more =>
      simp only [List.sum_cons] at long
      have rest : (next :: more).sum ≤ (text.drop size).length := by simp; omega
      have later := ih rest
      have first : (text.take size).length = size := by simp; omega
      rw [hyphenate, unhyphenate?, List.drop_left' first, List.take_left' first]
      · simp [later]
      all_goals simp

/-- Hyphens that were taken out go in again where they stood. -/
theorem hyphenate_of_unhyphenate? {sizes : List Nat} {text ds : List Char}
    (taken : unhyphenate? sizes text = some ds) : hyphenate sizes ds = text := by
  induction sizes generalizing text ds with
  | nil => exact (Option.some.inj taken).symm
  | cons size sizes ih =>
    cases sizes with
    | nil => exact (Option.some.inj taken).symm
    | cons next more =>
      rw [unhyphenate?.eq_3 _ _ _ (by simp)] at taken
      split at taken
      case h_1 rest tail =>
        obtain ⟨later, found, rfl⟩ := Option.map_eq_some_iff.mp taken
        have first : (text.take size).length = size := by
          have some_left := congrArg List.length tail
          simp at some_left ⊢
          omega
        rw [hyphenate.eq_3 _ _ _ (by simp), List.take_left' first, List.drop_left' first, ih found,
          ← tail, List.take_append_drop]
      case h_2 => cases taken

/-- Hyphenated groups are read as the id whose digits they hold. -/
theorem ofHyphenated?_eq_some_iff {text : List Char} {id : Uuid} :
    ofHyphenated? text = some id
      ↔ ∃ ds, ds.map Char.toLower = id.digits ∧ text = hyphenate groups ds := by
  rw [ofHyphenated?, Option.ite_none_right_eq_some, Option.bind_eq_some_iff]
  simp only [ofDigits?_eq_some_iff]
  constructor
  · rintro ⟨-, ds, taken, lower⟩
    exact ⟨ds, lower, (hyphenate_of_unhyphenate? taken).symm⟩
  · rintro ⟨ds, lower, rfl⟩
    have long : ds.length = 32 := by
      rw [← List.length_map (f := Char.toLower), lower, length_digits]
    have enough : groups.sum ≤ ds.length := by rw [long]; decide
    have count := length_hyphenate (by decide : groups ≠ []) enough
    rw [long] at count
    exact ⟨Nat.succ.inj count, ds, unhyphenate?_hyphenate _ enough, lower⟩

/-! ### Spellings -/

/-- How an id may be written: its digits in either case, plain or in hyphenated groups, and these
in braces or after the scheme in either case. -/
inductive Spells (id : Uuid) : List Char → Prop
  | plain {ds : List Char} (lower : ds.map Char.toLower = id.digits) : Spells id ds
  | hyphenated {ds : List Char} (lower : ds.map Char.toLower = id.digits) :
    Spells id (hyphenate groups ds)
  | braced {ds : List Char} (lower : ds.map Char.toLower = id.digits) :
    Spells id ('{' :: hyphenate groups ds ++ ['}'])
  | urn {lead ds : List Char} (urn : lead.map Char.toLower = scheme)
    (lower : ds.map Char.toLower = id.digits) : Spells id (lead ++ hyphenate groups ds)

/-- A text that begins with a digit begins with neither a brace nor the scheme. -/
theorem ofChars?_of_digit {c : Char} {d : Nat} (small : d < 16)
    (digit : c.toLower = Nat.digitChar d) (rest : List Char) :
    ofChars? (c :: rest) = (ofDigits? (c :: rest) <|> ofHyphenated? (c :: rest)) := by
  have noBrace : ∀ d < 16, '{'.toLower ≠ Nat.digitChar d := by decide
  have noScheme : ∀ d < 16, Nat.digitChar d ≠ 'u' := by decide
  have plain : ∀ more, c :: rest = '{' :: more → False := by
    intro more brace
    obtain ⟨rfl, -⟩ := List.cons.inj brace
    exact noBrace d small digit
  have other : ((c :: rest).take scheme.length).map Char.toLower ≠ scheme := fun same =>
    noScheme d small (digit ▸ (List.cons.inj same).1)
  rw [ofChars?.eq_2 _ plain, if_neg other]

/-- The first of the digits of an id. -/
theorem exists_first_digit {ds : List Char} {id : Uuid} (lower : ds.map Char.toLower = id.digits) :
    ∃ c rest, ds = c :: rest ∧ ∃ d < 16, c.toLower = Nat.digitChar d := by
  cases ds with
  | nil => cases lower
  | cons c rest =>
    exact ⟨c, rest, rfl, _, Nat.mod_lt _ (by omega), (List.cons.inj lower).1⟩

/-- **The texts read as an id are its spellings.** -/
theorem ofChars?_eq_some_iff {text : List Char} {id : Uuid} :
    ofChars? text = some id ↔ id.Spells text := by
  constructor
  · intro read
    unfold ofChars? at read
    split at read
    case h_1 rest =>
      obtain ⟨closed, found⟩ := Option.ite_none_right_eq_some.mp read
      obtain ⟨ds, lower, inner⟩ := ofHyphenated?_eq_some_iff.mp found
      rw [← List.dropLast_append_getLast? _ closed, inner]
      exact .braced lower
    case h_2 =>
      split at read
      case isTrue urn =>
        obtain ⟨ds, lower, rest⟩ := ofHyphenated?_eq_some_iff.mp read
        rw [← List.take_append_drop scheme.length text, rest]
        exact .urn urn lower
      case isFalse =>
        rcases (Option.orElse_eq_some ..).mp read with plain | ⟨-, hyphenated⟩
        · exact .plain (ofDigits?_eq_some_iff.mp plain)
        · obtain ⟨ds, lower, rfl⟩ := ofHyphenated?_eq_some_iff.mp hyphenated
          exact .hyphenated lower
  · intro spelled
    cases spelled with
    | plain lower =>
      obtain ⟨c, rest, rfl, d, small, digit⟩ := exists_first_digit lower
      rw [ofChars?_of_digit small digit, ofDigits?_eq_some_iff.mpr lower]
      rfl
    | @hyphenated ds lower =>
      have read := ofHyphenated?_eq_some_iff.mpr ⟨ds, lower, rfl⟩
      obtain ⟨c, rest, rfl, d, small, digit⟩ := exists_first_digit lower
      have first : hyphenate groups (c :: rest) = c :: (hyphenate groups (c :: rest)).tail := rfl
      have noDigits : ofDigits? (hyphenate groups (c :: rest)) = none := by
        refine if_neg fun short => ?_
        have long := (Option.ite_none_right_eq_some.mp read).1
        omega
      rw [first, ofChars?_of_digit small digit, ← first, noDigits, read]
      rfl
    | @braced ds lower =>
      have read := ofHyphenated?_eq_some_iff.mpr ⟨ds, lower, rfl⟩
      simp [ofChars?, read]
    | @urn lead ds urn lower =>
      have read := ofHyphenated?_eq_some_iff.mpr ⟨ds, lower, rfl⟩
      have long : lead.length = scheme.length := by rw [← urn, List.length_map]
      have plain : ∀ more, lead ++ hyphenate groups ds = '{' :: more → False := by
        intro more brace
        cases lead with
        | nil => cases urn
        | cons c lead =>
          obtain ⟨rfl, -⟩ := List.cons.inj brace
          have noScheme : '{'.toLower ≠ 'u' := by decide
          exact noScheme (List.cons.inj urn).1
      rw [ofChars?.eq_2 _ plain, List.take_left' long, if_pos urn, List.drop_left' long, read]

/-- A text is read as an id exactly if it is one of the spellings of the id. -/
theorem parse?_eq_some_iff {text : String} {id : Uuid} :
    parse? text = some id ↔ id.Spells text.toList :=
  ofChars?_eq_some_iff

/-- The canonical form is a spelling. -/
theorem spells_chars (id : Uuid) : id.Spells id.chars := by
  have lower : ∀ d < 16, (Nat.digitChar d).toLower = Nat.digitChar d := by decide
  have same (n count : Nat) : (lowDigits n count).map Char.toLower = lowDigits n count := by
    induction count with
    | zero => rfl
    | succ count ih => rw [lowDigits_succ, List.map_cons, ih, lower _ (Nat.mod_lt _ (by omega))]
  exact .hyphenated (same _ _)

/-- The canonical form is read as the id it was written for. -/
@[simp]
theorem parse?_text (id : Uuid) : parse? id.text = some id := by
  rw [parse?_eq_some_iff, text, String.toList_ofList]
  exact id.spells_chars

/-- An id is read from a text that spells it. -/
theorem ofNode?_eq_some_iff {node : Node} {id : Uuid} :
    ofNode? node = some id ↔ ∃ text, node = .text (.ok text) ∧ id.Spells text.toList := by
  simp only [ofNode?, Option.bind_eq_some_iff, Node.text?_eq_some_iff, parse?_eq_some_iff]

end Uuid

end Parley
