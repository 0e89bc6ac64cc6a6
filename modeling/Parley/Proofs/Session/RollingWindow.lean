import Parley.Proofs.Session.Allowance

/-!
# The allowance against a limiter that never forgets

An `Archive` keeps every attempt that it ever admitted, and looks through all of them at each
attempt. An allowance keeps only what it found inside the window when it last looked, and looks no
further than to the first of these that still is. At times that do not go back the two decide alike
(`Agrees.attempt`), over whole runs too (`attempts_eq_archive`): the attempts that an allowance
keeps are in order, so behind the first that is inside the window all are.
-/

namespace Parley

/-- A limiter that never forgets: its limit, its window, and all attempts that it admitted. -/
structure Archive where
  limit : Nat
  window : Duration
  admitted : List Duration := []

namespace Archive

/-- The admitted attempts that are less than a window ago. -/
def recent (h : Archive) (now : Duration) : List Duration :=
  h.admitted.filter fun t => now - t < h.window

/-- Whether an attempt at a given time is admitted, and the archive after it. -/
def attempt (h : Archive) (now : Duration) : Bool × Archive :=
  if (h.recent now).length < h.limit then (true, { h with admitted := h.admitted ++ [now] })
  else (false, h)

/-- Which of the attempts at the given times are admitted. -/
def attempts (h : Archive) : List Duration → List Bool
  | [] => []
  | now :: rest => (h.attempt now).1 :: (h.attempt now).2.attempts rest

end Archive

namespace Allowance

/-- An allowance after attempts at given times. -/
def after (a : Allowance) (times : List Duration) : Allowance :=
  times.foldl (fun a now => (a.attempt now).2) a

/-- At a given time, an allowance and an archive of the same limit and window have admitted the same
attempts, none of them later. -/
structure Agrees (a : Allowance) (now : Nat) (h : Archive) : Prop where
  limit : a.limit = h.limit
  window : a.window = h.window
  past : ∀ t ∈ h.admitted, t ≤ now
  recalls : a.Recalls now h.admitted

/-- A new allowance agrees with the empty history. -/
theorem agrees_new (limit window now : Nat) :
    Agrees { limit, window } now { limit, window } :=
  ⟨rfl, rfl, fun _ ht => absurd ht List.not_mem_nil, recalls_new limit window now⟩

variable {a : Allowance} {h : Archive} {now later : Nat}

/-- Agreement lasts as time passes. -/
theorem Agrees.mono (agrees : a.Agrees now h) (le : now ≤ later) : a.Agrees later h :=
  ⟨agrees.limit, agrees.window, fun t ht => Nat.le_trans (agrees.past t ht) le,
    agrees.recalls.mono le⟩

/-- What is less than a window ago is what still counts, as nothing was admitted later than now. -/
theorem Agrees.recent_eq (agrees : a.Agrees now h) :
    h.recent now = counting a.window now h.admitted := by
  refine List.filter_congr fun t ht => decide_eq_decide.mpr ?_
  rw [agrees.window]
  exact Nat.sub_lt_iff_lt_add' (agrees.past t ht)

/-- Both decide alike on an attempt, and agree after it. -/
theorem Agrees.attempt (agrees : a.Agrees now h) :
    (a.attempt now).1 = (h.attempt now).1 ∧ (a.attempt now).2.Agrees now (h.attempt now).2 := by
  have admits := agrees.recalls.admits_iff
  have recalls := agrees.recalls.attempt
  rw [← agrees.recent_eq, agrees.limit] at admits
  have limit := a.limit_attempt now
  have window := a.window_attempt now
  unfold Archive.attempt
  split_ifs with room
  · rw [decide_eq_true room] at admits
    rw [admits, if_pos rfl] at recalls
    refine ⟨admits, limit.trans agrees.limit, window.trans agrees.window, fun t ht => ?_, recalls⟩
    rcases List.mem_append.mp ht with earlier | last
    · exact agrees.past t earlier
    · exact Nat.le_of_eq (List.mem_singleton.mp last)
  · rw [decide_eq_false room] at admits
    rw [admits, if_neg Bool.false_ne_true] at recalls
    exact ⟨admits, limit.trans agrees.limit, window.trans agrees.window, agrees.past, recalls⟩

/-- Both decide alike on attempts that come later, at times that do not go back; and of these the
allowance keeps, in order, no more than its limit. -/
theorem Agrees.attempts {times : List Nat} (agrees : a.Agrees now h)
    (inOrder : times.Pairwise (· ≤ ·)) (later : ∀ t ∈ times, now ≤ t) :
    a.attempts times = h.attempts times ∧
      (a.after times).admitted.Pairwise (· ≤ ·) ∧ (a.after times).admitted.length ≤ h.limit := by
  induction times generalizing a h now with
  | nil => exact ⟨rfl, agrees.recalls.ordered, agrees.limit ▸ agrees.recalls.few⟩
  | cons t rest ih =>
    obtain ⟨first, inOrder⟩ := List.pairwise_cons.mp inOrder
    obtain ⟨same, agrees'⟩ := (agrees.mono (later t List.mem_cons_self)).attempt
    obtain ⟨decisions, ordered, few⟩ := ih agrees' inOrder first
    have limit : (h.attempt t).2.limit = h.limit := by
      unfold Archive.attempt
      split_ifs <;> rfl
    refine ⟨?_, ordered, limit ▸ few⟩
    rw [Allowance.attempts, Archive.attempts, ← same, ← decisions]

end Allowance

/-- **The rolling window.** At times that do not go back, an allowance decides on every attempt as a
limiter does that keeps all attempts it ever admitted and admits one exactly if fewer than the limit
of them are less than a window ago. At any time what the allowance keeps is in order, and no more
than the limit. -/
theorem attempts_eq_archive (limit window : Nat) (times : List Nat)
    (inOrder : times.Pairwise (· ≤ ·)) :
    let a : Allowance := { limit, window }
    a.attempts times = Archive.attempts { limit, window } times ∧
      ∀ before, before <+: times →
        (a.after before).admitted.Pairwise (· ≤ ·) ∧ (a.after before).admitted.length ≤ limit := by
  intro a
  have agrees : a.Agrees 0 { limit, window } := Allowance.agrees_new limit window 0
  refine ⟨(agrees.attempts inOrder fun t _ => Nat.zero_le t).1, fun before prior => ?_⟩
  exact (agrees.attempts (inOrder.sublist prior.sublist) fun t _ => Nat.zero_le t).2

/-- Two attempts in ten: one at the very end of the window is admitted, one just before is not, and
of attempts at the same time as many are as there is room for. -/
theorem attempts_eq_archive_at_boundary :
    let times := [0, 5, 9, 10, 14, 15, 15, 25, 25, 25]
    times.Pairwise (· ≤ ·) ∧
      Archive.attempts { limit := 2, window := 10 } times
        = [true, true, false, true, false, true, false, true, true, false] ∧
      Allowance.attempts { limit := 2, window := 10 } times
        = Archive.attempts { limit := 2, window := 10 } times :=
  ⟨by decide, by decide, (attempts_eq_archive 2 10 _ (by decide)).1⟩

end Parley
