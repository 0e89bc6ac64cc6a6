/-!
# Calendar dates

`Date` is a day of the proleptic Gregorian calendar, with a proof that the day exists.
`Date.next` and `Date.prev` are the neighbouring days.
-/

namespace Parley

/-- Whether a year has a twenty-ninth of February. -/
def isLeapYear (year : Int) : Bool :=
  year % 4 = 0 && (year % 100 ≠ 0 || year % 400 = 0)

/-- The number of days in a month. -/
def daysIn (year : Int) (month : Nat) : Nat :=
  if month = 2 then (if isLeapYear year then 29 else 28)
  else if month = 4 ∨ month = 6 ∨ month = 9 ∨ month = 11 then 30
  else 31

/-- Every month has a first day. -/
theorem daysIn_pos (year : Int) (month : Nat) : 1 ≤ daysIn year month := by
  unfold daysIn
  split
  · split <;> omega
  · split <;> omega

/-- The year ends with a month of thirty-one days. -/
theorem daysIn_december (year : Int) : daysIn year 12 = 31 := by
  simp [daysIn]

/-- A day of the calendar. -/
structure Date where
  year : Int
  month : Nat
  day : Nat
  month_valid : 1 ≤ month ∧ month ≤ 12
  day_valid : 1 ≤ day ∧ day ≤ daysIn year month
  deriving DecidableEq, Repr

namespace Date

/-- The day of the given numbers, if there is one. -/
def ofParts? (year : Int) (month day : Nat) : Option Date :=
  if h : (1 ≤ month ∧ month ≤ 12) ∧ 1 ≤ day ∧ day ≤ daysIn year month then
    some ⟨year, month, day, h.1, h.2⟩
  else none

/-- The day after. -/
def next (d : Date) : Date :=
  if h : d.day < daysIn d.year d.month then
    { d with day := d.day + 1, day_valid := ⟨by omega, h⟩ }
  else if h' : d.month < 12 then
    { year := d.year, month := d.month + 1, day := 1
      month_valid := ⟨by omega, h'⟩, day_valid := ⟨by omega, daysIn_pos ..⟩ }
  else
    { year := d.year + 1, month := 1, day := 1
      month_valid := by omega, day_valid := ⟨by omega, daysIn_pos ..⟩ }

/-- The day before. -/
def prev (d : Date) : Date :=
  if h : 1 < d.day then
    { d with day := d.day - 1, day_valid := ⟨by omega, by have := d.day_valid; omega⟩ }
  else if h' : 1 < d.month then
    { year := d.year, month := d.month - 1, day := daysIn d.year (d.month - 1)
      month_valid := ⟨by omega, by have := d.month_valid; omega⟩
      day_valid := ⟨daysIn_pos .., by omega⟩ }
  else
    { year := d.year - 1, month := 12, day := 31
      month_valid := by omega, day_valid := ⟨by omega, Nat.le_of_eq (daysIn_december _).symm⟩ }

/-- The least and the greatest year that a date is read in. -/
def yearLimits : Int × Int := (-262143, 262142)

/-- Whether the year of a date is within the limits. -/
def inRange (d : Date) : Bool :=
  yearLimits.1 ≤ d.year && d.year ≤ yearLimits.2

end Date

end Parley
