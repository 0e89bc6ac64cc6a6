import Mathlib.Data.List.Basic
import Parley.Session.Allowance

/-!
# What an allowance remembers

An allowance forgets the admitted attempts that have left its window, yet it decides as if it
remembered all of them (`Recalls.admits_iff`). `Allowance.Recalls` ties what it keeps to the whole
history of admitted attempts: from the present on, both have the same attempts in the window. An
attempt preserves this whether it is admitted or refused (`Recalls.attempt`), so that what a refused
attempt throws away is never missed.

A history to which attempts are added only where fewer than the limit still count has no more than
the limit in any window (`Sparse.concat`).
-/

namespace Parley.Allowance

/-- The admitted attempts that still count at a given time. -/
def counting (window now : Nat) (history : List Nat) : List Nat :=
  history.filter fun t => now < t + window

/-- What counts of two histories is what counts of each. -/
theorem counting_append (window now : Nat) (earlier later : List Nat) :
    counting window now (earlier ++ later) =
      counting window now earlier ++ counting window now later :=
  List.filter_append ..

/-- What counts later is found among what counts now. -/
theorem counting_counting (window : Nat) {now later : Nat} (le : now ≤ later)
    (history : List Nat) :
    counting window later (counting window now history) = counting window later history := by
  unfold counting
  rw [List.filter_filter]
  apply List.filter_congr
  intro t _
  have : later < t + window → now < t + window := fun h => Nat.lt_of_le_of_lt le h
  simpa using this

/-! ### The history behind an allowance -/

/-- At a given time, an allowance has come out of a history of admitted attempts: what it keeps is
ordered and past, and of the history it keeps all that counts now or will count later. -/
structure Recalls (a : Allowance) (now : Nat) (history : List Nat) : Prop where
  ordered : a.admitted.Pairwise (· ≤ ·)
  past : ∀ t ∈ a.admitted, t ≤ now
  few : a.admitted.length ≤ a.limit
  counts : ∀ later, now ≤ later →
    counting a.window later a.admitted = counting a.window later history

variable {a : Allowance} {now later : Nat} {history : List Nat}

/-- A new allowance has no history. -/
theorem recalls_new (limit window now : Nat) :
    Recalls { limit, window } now [] where
  ordered := List.Pairwise.nil
  past := by simp
  few := Nat.zero_le _
  counts := fun _ _ => rfl

/-- Dropping attempts from the front until one counts leaves exactly those that count, as the
attempts are in order. -/
theorem dropWhile_eq_counting {admitted : List Nat} (window : Nat)
    (ordered : admitted.Pairwise (· ≤ ·)) (past : ∀ t ∈ admitted, t ≤ now) :
    admitted.dropWhile (fun t => decide (window ≤ now - t)) = counting window now admitted := by
  induction admitted with
  | nil => rfl
  | cons t rest ih =>
    obtain ⟨first, ordered⟩ := List.pairwise_cons.mp ordered
    have gone : window ≤ now - t ↔ ¬ now < t + window := by
      have := past t List.mem_cons_self
      omega
    unfold counting at ih ⊢
    by_cases counts : now < t + window
    · have rest_counts : ∀ u ∈ t :: rest, decide (now < u + window) = true := by
        intro u hu
        rcases List.mem_cons.mp hu with rfl | hu
        · exact decide_eq_true counts
        · have := first u hu
          exact decide_eq_true (by omega)
      rw [List.dropWhile_cons_of_neg (by simpa [gone] using counts),
        List.filter_eq_self.mpr rest_counts]
    · rw [List.dropWhile_cons_of_pos (by simpa [gone] using counts),
        List.filter_cons_of_neg (by simpa using counts)]
      exact ih ordered fun u hu => past u (List.mem_cons_of_mem _ hu)

/-- An attempt, in terms of what still counts of the attempts kept. -/
theorem attempt_eq (ordered : a.admitted.Pairwise (· ≤ ·)) (past : ∀ t ∈ a.admitted, t ≤ now) :
    a.attempt now =
      if (counting a.window now a.admitted).length < a.limit then
        (true, { a with admitted := counting a.window now a.admitted ++ [now] })
      else (false, { a with admitted := counting a.window now a.admitted }) := by
  unfold attempt
  rw [dropWhile_eq_counting a.window ordered past]

/-- An attempt leaves the limit as it is. -/
theorem limit_attempt (a : Allowance) (now : Nat) : (a.attempt now).2.limit = a.limit := by
  unfold attempt
  dsimp only
  split <;> rfl

/-- An attempt leaves the window as it is. -/
theorem window_attempt (a : Allowance) (now : Nat) : (a.attempt now).2.window = a.window := by
  unfold attempt
  dsimp only
  split <;> rfl

/-- The present may move on between attempts. -/
theorem Recalls.mono (recalls : a.Recalls now history) (le : now ≤ later) :
    a.Recalls later history where
  ordered := recalls.ordered
  past := fun t ht => Nat.le_trans (recalls.past t ht) le
  few := recalls.few
  counts := fun t ht => recalls.counts t (Nat.le_trans le ht)

/-- An attempt is admitted exactly if fewer than the limit of all the attempts ever admitted still
count. -/
theorem Recalls.admits_iff (recalls : a.Recalls now history) :
    (a.attempt now).1 = decide ((counting a.window now history).length < a.limit) := by
  rw [attempt_eq recalls.ordered recalls.past, recalls.counts now (Nat.le_refl now)]
  by_cases room : (counting a.window now history).length < a.limit
  · rw [if_pos room, decide_eq_true room]
  · rw [if_neg room, decide_eq_false room]

/-- After an attempt the allowance has come out of the history with that attempt, if it was
admitted, and otherwise out of the same history. -/
theorem Recalls.attempt (recalls : a.Recalls now history) :
    (a.attempt now).2.Recalls now (if (a.attempt now).1 then history ++ [now] else history) := by
  have kept_ordered : (counting a.window now a.admitted).Pairwise (· ≤ ·) :=
    recalls.ordered.sublist List.filter_sublist
  have kept_past : ∀ t ∈ counting a.window now a.admitted, t ≤ now :=
    fun t ht => recalls.past t ((List.mem_filter.mp ht).1)
  have kept_counts : ∀ t, now ≤ t →
      counting a.window t (counting a.window now a.admitted) = counting a.window t history :=
    fun t ht => (counting_counting a.window ht _).trans (recalls.counts t ht)
  rw [attempt_eq recalls.ordered recalls.past]
  by_cases room : (counting a.window now a.admitted).length < a.limit
  · rw [if_pos room]
    refine ⟨?_, ?_, ?_, ?_⟩
    · apply List.pairwise_append.mpr
      exact ⟨kept_ordered, List.pairwise_singleton _ _, fun t ht u hu =>
        List.mem_singleton.mp hu ▸ kept_past t ht⟩
    · intro t ht
      rcases List.mem_append.mp ht with ht | ht
      · exact kept_past t ht
      · exact Nat.le_of_eq (List.mem_singleton.mp ht)
    · show (_ ++ [now]).length ≤ a.limit
      rw [List.length_append]
      exact room
    · intro t ht
      show counting a.window t (_ ++ [now]) = counting a.window t (history ++ [now])
      rw [counting_append, counting_append, kept_counts t ht]
  · rw [if_neg room]
    exact ⟨kept_ordered, kept_past,
      Nat.le_trans (List.length_filter_le _ _) recalls.few, kept_counts⟩

/-! ### Histories that keep the limit -/

/-- The attempts of a history that fall into a window, which contains its beginning and not its
end. -/
def within (window start : Nat) (history : List Nat) : List Nat :=
  history.filter fun t => start ≤ t && t < start + window

/-- No window holds more attempts than the limit. -/
def Sparse (limit window : Nat) (history : List Nat) : Prop :=
  ∀ start, (within window start history).length ≤ limit

/-- A history without attempts keeps any limit. -/
theorem sparse_nil (limit window : Nat) : Sparse limit window [] :=
  fun _ => Nat.zero_le limit

/-- One attempt more keeps the limit, if fewer than the limit of the earlier ones still count. In a
window that holds the new attempt, all the others still count. -/
theorem Sparse.concat {limit window : Nat} (sparse : Sparse limit window history)
    (room : (counting window now history).length < limit) :
    Sparse limit window (history ++ [now]) := by
  intro start
  unfold within
  rw [List.filter_append, List.length_append]
  by_cases inside : start ≤ now ∧ now < start + window
  · have others : (within window start history).length ≤ (counting window now history).length := by
      apply List.Sublist.length_le
      apply List.monotone_filter_right
      intro t ht
      simp only [Bool.and_eq_true, decide_eq_true_eq] at ht ⊢
      omega
    have one : ([now].filter fun t => start ≤ t && t < start + window).length ≤ 1 :=
      List.length_filter_le _ _
    unfold within at others
    omega
  · have none_more : [now].filter (fun t => start ≤ t && t < start + window) = [] := by
      simpa using inside
    rw [none_more, List.length_nil, Nat.add_zero]
    exact sparse start

end Parley.Allowance
