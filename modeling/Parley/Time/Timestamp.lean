import Parley.Text.Blank
import Parley.Text.Decimal
import Parley.Time.Date

/-!
# Points in time

`Timestamp` is a moment in UTC with nanoseconds, by calendar date and second of the day. A leap
second is the second before it with a billion nanoseconds or more. `Timestamp.text` writes RFC 3339
with a final `Z` and as many of 0, 3, 6 or 9 fractional digits as the value needs.
`Timestamp.parse?` reads a date, a time and an offset from UTC and is lenient about blanks, the
number of digits and the letter case.
-/

namespace Parley

/-- The seconds of a day. -/
def secondsPerDay : Nat := 86400

/-- The nanoseconds of a second. -/
def nanosPerSecond : Nat := 1000000000

/-- A moment in UTC. -/
structure Timestamp where
  date : Date
  second : Nat
  nano : Nat
  second_lt : second < secondsPerDay
  nano_lt : nano < 2 * nanosPerSecond
  leap : nanosPerSecond ≤ nano → second % 60 = 59
  deriving DecidableEq, Repr

namespace Timestamp

/-! ### Writing -/

/-- The fraction of a second: nothing, or a point and 3, 6 or 9 digits. -/
def fraction (nano : Nat) : List Char :=
  if nano = 0 then []
  else if nano % 1000000 = 0 then '.' :: Decimal.padded 3 (nano / 1000000)
  else if nano % 1000 = 0 then '.' :: Decimal.padded 6 (nano / 1000)
  else '.' :: Decimal.padded 9 nano

/-- A year: four digits, or a sign and at least four digits outside the years 0 to 9999. -/
def yearChars (year : Int) : List Char :=
  if year < 0 then '-' :: Decimal.padded 4 year.natAbs
  else if 9999 < year then '+' :: Decimal.padded 4 year.natAbs
  else Decimal.padded 4 year.natAbs

/-- The moment in RFC 3339. -/
def chars (t : Timestamp) : List Char :=
  let second := t.second % 60 + t.nano / nanosPerSecond
  yearChars t.date.year ++ '-' :: (Decimal.padded 2 t.date.month
    ++ '-' :: (Decimal.padded 2 t.date.day
    ++ 'T' :: (Decimal.padded 2 (t.second / 3600)
    ++ ':' :: (Decimal.padded 2 (t.second / 60 % 60)
    ++ ':' :: (Decimal.padded 2 second
    ++ fraction (t.nano % nanosPerSecond) ++ ['Z'])))))

/-- The moment in RFC 3339 as a string. -/
def text (t : Timestamp) : String :=
  String.ofList t.chars

/-! ### Reading -/

/-- A reader of the front of a text. -/
abbrev Scan := StateT (List Char) Option

namespace Scan

/-- Passes over blanks. -/
def blanks : Scan Unit :=
  modify Blank.skip

/-- Passes over one character of a class. -/
def one (p : Char → Bool) : Scan Char := fun text =>
  match text with
  | c :: rest => if p c then some (c, rest) else none
  | [] => none

/-- Passes over a given character, after blanks. -/
def mark (c : Char) : Scan Unit := do
  blanks
  let _ ← one (· == c)

/-- Reads at least one and at most `width` digits. -/
def digits (width : Nat) : Scan (List Char) := fun text =>
  let read := (text.take width).takeWhile Decimal.isDigit
  if read.isEmpty then none else some (read, text.drop read.length)

/-- Reads a number of at most `width` digits, after blanks. -/
def number (width : Nat) : Scan Nat := do
  blanks
  return Decimal.accumulate 0 (← digits width)

/-- Reads a number of any length. -/
def longNumber : Scan Nat := fun text => do
  let read := text.takeWhile Decimal.isDigit
  let n ← Decimal.number? read
  pure (n, text.drop read.length)

/-- Reads a year: up to four digits, or a sign and any number of digits. -/
def year : Scan Int := do
  blanks
  match (← get) with
  | '-' :: rest => set rest; return -(← longNumber : Int)
  | '+' :: rest => set rest; return (← longNumber : Int)
  | _ => return Decimal.accumulate 0 (← digits 4)

/-- Reads a fraction of a second in nanoseconds; digits after the ninth are passed over. -/
def fraction : Scan Nat := do
  match (← get) with
  | '.' :: rest =>
    set rest
    let read ← digits 9
    modify (·.dropWhile Decimal.isDigit)
    return Decimal.accumulate 0 read * Decimal.scale (9 - read.length)
  | _ => return 0

/-- Reads two digits as one number. -/
def pair : Scan Nat := do
  let tens ← one Decimal.isDigit
  let units ← one Decimal.isDigit
  return Decimal.accumulate 0 [tens, units]

/-- Reads an offset from UTC in minutes. -/
def offset : Scan Int := do
  match (← get) with
  | 'Z' :: rest | 'z' :: rest => set rest; return 0
  | text =>
    if (text.take 3).map Char.toUpper = ['U', 'T', 'C'] then
      set (text.drop 3)
      return 0
    let sign ← one fun c => c == '+' || c == '-' || c == '\u2212'
    let hours ← pair
    modify (·.dropWhile fun c => c == ':' || Blank.isBlank c)
    let minutes ← pair
    if 24 ≤ hours ∨ 60 ≤ minutes then failure
    let size : Int := 60 * hours + minutes
    return if sign == '+' then size else -size

end Scan

/-- The moment of a local date and second of the day at an offset in minutes. -/
def ofLocal? (date : Date) (second nano : Nat) (offset : Int) : Option Timestamp :=
  let shifted := (second : Int) - 60 * offset
  let (date, second) :=
    if shifted < 0 then (date.prev, (shifted + secondsPerDay).toNat)
    else if (secondsPerDay : Int) ≤ shifted then (date.next, (shifted - secondsPerDay).toNat)
    else (date, shifted.toNat)
  if h : second < secondsPerDay ∧ nano < 2 * nanosPerSecond
      ∧ (nanosPerSecond ≤ nano → second % 60 = 59) then
    if date.inRange then some ⟨date, second, nano, h.1, h.2.1, h.2.2⟩ else none
  else none

/-- Reads a whole moment: a date, a letter `T` or a space, a time, and an offset. -/
def scan : Scan Timestamp := do
  let year ← Scan.year
  Scan.mark '-'
  let month ← Scan.number 2
  Scan.mark '-'
  let day ← Scan.number 2
  let _ ← Scan.one fun c => c == 't' || c == 'T' || c == ' '
  let hour ← Scan.number 2
  Scan.mark ':'
  let minute ← Scan.number 2
  Scan.mark ':'
  let second ← Scan.number 2
  let nano ← Scan.fraction
  Scan.blanks
  let offset ← Scan.offset
  Scan.blanks
  let date ← liftM (Date.ofParts? year month day)
  if ¬ date.inRange ∨ 24 ≤ hour ∨ 60 ≤ minute ∨ 61 ≤ second then failure
  let (second, nano) := if second = 60 then (59, nano + nanosPerSecond) else (second, nano)
  liftM (ofLocal? date (3600 * hour + 60 * minute + second) nano offset)

/-- The moment that a text names. -/
def ofChars? (text : List Char) : Option Timestamp :=
  match scan text with
  | some (t, []) => some t
  | _ => none

/-- The moment that a text names. -/
def parse? (text : String) : Option Timestamp :=
  ofChars? text.toList

end Timestamp

end Parley
