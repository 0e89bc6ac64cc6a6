import Mathlib.Data.List.TakeWhile
import Parley.Text.Blank

/-!
# What trimming leaves

A text has exactly one middle part that neither begins nor ends with a character of a class, with
nothing but such characters around it: that is what `Blank.trimBy` leaves (`trims_iff`).
-/

namespace Parley.Blank

/-- A part of a text that neither begins nor ends with a character of a class, while all characters
before and after it are of the class. -/
structure Trims (p : Char → Bool) (text middle : List Char) : Prop where
  around : ∃ before after, text = before ++ middle ++ after ∧
    (∀ c ∈ before, p c = true) ∧ ∀ c ∈ after, p c = true
  begins : ∀ c, middle.head? = some c → p c = false
  ends : ∀ c, middle.getLast? = some c → p c = false

variable {p : Char → Bool}

/-- What is left does not begin with the class. -/
theorem head?_dropWhile (text : List Char) {c : Char}
    (first : (text.dropWhile p).head? = some c) : p c = false := by
  have stops := List.head?_dropWhile_not p text
  rw [first] at stops
  simpa using stops

/-- Nothing is dropped from the front of a text that does not begin with the class. -/
theorem dropWhile_eq_self {text : List Char} (begins : ∀ c, text.head? = some c → p c = false) :
    text.dropWhile p = text := by
  cases text with
  | nil => rfl
  | cons c rest => exact List.dropWhile_cons_of_neg (by simp [begins c rfl])

/-- What is left of a text at its end is a beginning of it. -/
theorem exists_append_dropWhile_reverse (text : List Char) :
    ∃ after, text = (text.reverse.dropWhile p).reverse ++ after ∧ ∀ c ∈ after, p c = true := by
  refine ⟨(text.reverse.takeWhile p).reverse, ?_, ?_⟩
  · rw [← List.reverse_append, List.takeWhile_append_dropWhile, List.reverse_reverse]
  · intro c hc
    exact List.mem_takeWhile_imp (List.mem_reverse.mp hc)

/-- Trimming leaves a middle part. -/
theorem trims_trimBy (p : Char → Bool) (text : List Char) : Trims p text (trimBy p text) := by
  obtain ⟨after, rest_eq, after_class⟩ :=
    exists_append_dropWhile_reverse (p := p) (text.dropWhile p)
  constructor
  case around =>
    refine ⟨text.takeWhile p, after, ?_, fun c hc => List.mem_takeWhile_imp hc, after_class⟩
    rw [List.append_assoc, trimBy, ← rest_eq, List.takeWhile_append_dropWhile]
  case begins =>
    intro c first
    apply head?_dropWhile text
    rw [rest_eq, List.head?_append]
    change (trimBy p text).head?.or _ = _
    rw [first]
    rfl
  case ends =>
    intro c last
    apply head?_dropWhile (text.dropWhile p).reverse
    rwa [trimBy, List.getLast?_reverse] at last

/-- There is one middle part of a text, the one that trimming leaves. -/
theorem trims_iff {text middle : List Char} : Trims p text middle ↔ middle = trimBy p text := by
  constructor
  · rintro ⟨⟨before, after, rfl, before_class, after_class⟩, begins, ends⟩
    unfold trimBy
    rw [List.append_assoc, List.dropWhile_append_of_pos before_class]
    cases middle with
    | nil =>
      have nothing : after.dropWhile p = [] := List.dropWhile_eq_nil_iff.mpr after_class
      rw [List.nil_append, nothing]
      rfl
    | cons c rest =>
      have front : (c :: rest ++ after).dropWhile p = c :: rest ++ after :=
        dropWhile_eq_self fun d hd => begins d hd
      have back : (c :: rest).reverse.dropWhile p = (c :: rest).reverse :=
        dropWhile_eq_self fun d hd => ends d (by rwa [List.head?_reverse] at hd)
      rw [front, List.reverse_append, List.dropWhile_append_of_pos, back, List.reverse_reverse]
      intro d hd
      exact after_class d (List.mem_reverse.mp hd)
  · rintro rfl
    exact trims_trimBy p text

end Parley.Blank
