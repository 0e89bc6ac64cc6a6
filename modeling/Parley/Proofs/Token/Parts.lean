import Parley.Proofs.Text.Separator
import Parley.Token.Access

/-!
# The parts of a token

A text has at most one division into three parts whose last two hold no dot: the one at its last
two dots (`TokenParts.ofChars?_eq_some_iff`).
-/

namespace Parley.TokenParts

/-- A text is split at a dot that no other follows. -/
theorem splitLast?_append {before last : List Char} (dotless : '.' ∉ last) :
    splitLast? (before ++ '.' :: last) = some (before, last) := by
  have reversed : (before ++ '.' :: last).reverse = last.reverse ++ '.' :: before.reverse := by
    simp
  have dotless' : '.' ∉ last.reverse := by simpa using dotless
  rw [splitLast?, reversed, Separator.dropWhile_ne dotless', Separator.takeWhile_ne dotless']
  simp

/-- A text without a dot is not split. -/
theorem splitLast?_eq_none {text : List Char} (dotless : '.' ∉ text) : splitLast? text = none := by
  have nothing : text.reverse.dropWhile (· ≠ '.') = [] := by
    rw [List.dropWhile_eq_nil_iff]
    intro c inside
    have : c ≠ '.' := fun same => dotless (same ▸ List.mem_reverse.mp inside)
    simpa using this
  rw [splitLast?, nothing]

/-- There is one way to split a text at its last dot. -/
theorem splitLast?_eq_some_iff {text before last : List Char} :
    splitLast? text = some (before, last) ↔ text = before ++ '.' :: last ∧ '.' ∉ last := by
  constructor
  · intro found
    by_cases dotted : '.' ∈ text.reverse
    · obtain ⟨xs, ys, reversed, dotless⟩ := List.eq_append_cons_of_mem dotted
      have whole : text = ys.reverse ++ '.' :: xs.reverse := by
        rw [← text.reverse_reverse, reversed]
        simp
      rw [whole, splitLast?_append (by simpa using dotless)] at found
      obtain ⟨rfl, rfl⟩ := Prod.mk.inj (Option.some.inj found)
      exact ⟨whole, by simpa using dotless⟩
    · rw [splitLast?_eq_none (by simpa using dotted)] at found
      cases found
  · rintro ⟨rfl, dotless⟩
    exact splitLast?_append dotless

/-- A token is split into given parts exactly when it is the token of these parts and their last
two hold no dot. -/
theorem ofChars?_eq_some_iff {token : List Char} {p : TokenParts} :
    ofChars? token = some p ↔ token = p.toChars ∧ '.' ∉ p.claims ∧ '.' ∉ p.signature := by
  constructor
  · intro found
    simp only [ofChars?, Option.bind_eq_bind, Option.bind_eq_some_iff] at found
    obtain ⟨⟨message, signature⟩, outer, ⟨header, claims⟩, inner, made⟩ := found
    obtain rfl := Option.some.inj made
    obtain ⟨rfl, signatureDotless⟩ := splitLast?_eq_some_iff.mp outer
    obtain ⟨rfl, claimsDotless⟩ := splitLast?_eq_some_iff.mp inner
    exact ⟨rfl, claimsDotless, signatureDotless⟩
  · rintro ⟨rfl, claimsDotless, signatureDotless⟩
    have outer : splitLast? p.toChars = some (p.message, p.signature) :=
      splitLast?_append signatureDotless
    have inner : splitLast? p.message = some (p.header, p.claims) :=
      splitLast?_append claimsDotless
    simp [ofChars?, outer, inner]

end Parley.TokenParts
