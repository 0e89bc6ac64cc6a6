/-!
# Lengths of time

A length of time is a number of nanoseconds; a moment of a run is the length of time since its
start. `Duration.parts` splits one into whole seconds and the nanoseconds that are left.
-/

namespace Parley

/-- A length of time in nanoseconds. -/
abbrev Duration := Nat

namespace Duration

/-- A number of seconds. -/
def seconds (n : Nat) : Duration := n * 1000000000

/-- A number of milliseconds. -/
def millis (n : Nat) : Duration := n * 1000000

/-- A number of microseconds. -/
def micros (n : Nat) : Duration := n * 1000

/-- Whole seconds and the nanoseconds that are left. -/
def parts (d : Duration) : Nat × Nat := (d / 1000000000, d % 1000000000)

/-- Whole milliseconds. -/
def toMillis (d : Duration) : Nat := d / 1000000

end Duration

end Parley
