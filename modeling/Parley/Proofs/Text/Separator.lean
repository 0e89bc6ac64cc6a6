import Mathlib.Data.List.TakeWhile

/-!
# Separators

Written forms put separators between their parts: dots in a token, `?` in a target, `=` and `&` in
a query. A part before the first separator is found again (`takeWhile_ne`, `dropWhile_ne`), and what
occurs in none of the parts and is no separator occurs nowhere in the joined form
(`not_mem_intercalate`).
-/

namespace Parley.Separator

variable {α : Type}

section First

variable [DecidableEq α] {x : α} {xs : List α}

/-- Up to the first separator stands the first part. -/
theorem takeWhile_ne (absent : x ∉ xs) (ys : List α) :
    (xs ++ x :: ys).takeWhile (· ≠ x) = xs := by
  rw [List.takeWhile_append_of_pos fun y hy => decide_eq_true (ne_of_mem_of_not_mem hy absent)]
  simp

/-- From the first separator on stands the rest. -/
theorem dropWhile_ne (absent : x ∉ xs) (ys : List α) :
    (xs ++ x :: ys).dropWhile (· ≠ x) = x :: ys := by
  rw [List.dropWhile_append_of_pos fun y hy => decide_eq_true (ne_of_mem_of_not_mem hy absent)]
  simp

end First

/-- Joined parts hold nothing but what the parts hold and the separator. -/
theorem not_mem_intercalate {x separator : α} (other : x ≠ separator) {parts : List (List α)}
    (nowhere : ∀ part ∈ parts, x ∉ part) : x ∉ [separator].intercalate parts := by
  induction parts with
  | nil => exact List.not_mem_nil
  | cons first rest ih =>
    obtain ⟨not_first, not_rest⟩ := List.forall_mem_cons.mp nowhere
    cases rest with
    | nil => simpa using not_first
    | cons second rest =>
      rw [List.intercalate_cons_cons, List.mem_append, List.mem_append, List.mem_singleton]
      exact not_or.mpr ⟨not_or.mpr ⟨not_first, other⟩, ih not_rest⟩

end Parley.Separator
