import Parley.Time.Duration

/-!
# Rolling allowance

An `Allowance` admits at most `limit` attempts in any window. It keeps the times of the admitted
attempts, oldest first. Every attempt, admitted or refused, drops those of them that the window has
left behind; a refused attempt itself is not kept.
-/

namespace Parley

/-- How many attempts are admitted in any window, and when the last ones were. -/
structure Allowance where
  limit : Nat
  window : Duration
  admitted : List Duration := []
  deriving DecidableEq, Repr

/-- Whether an attempt at a given time is admitted, and what is left. -/
def Allowance.attempt (a : Allowance) (now : Duration) : Bool × Allowance :=
  let recent := a.admitted.dropWhile fun t => a.window ≤ now - t
  if recent.length < a.limit then (true, { a with admitted := recent ++ [now] })
  else (false, { a with admitted := recent })

/-- Which of the attempts at the given times are admitted. -/
def Allowance.attempts (a : Allowance) : (times : List Duration) → List Bool
  | [] => []
  | now :: rest =>
    let (admitted, a) := a.attempt now
    admitted :: a.attempts rest

end Parley
