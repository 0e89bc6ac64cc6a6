import Parley.Proofs.Text.Digits
import Parley.Time.Timestamp

/-!
# Points in time read back

A moment is read back from the text that it is written as (`Timestamp.parse?_text`), leap seconds
and years of more than four digits included. Each reader of the front of a text has one lemma, which
says what it makes of what the writer puts there, whatever follows; `Scan.bind_eq` joins them.
-/

namespace Parley

namespace Timestamp

open Decimal (isDigit padded scale)

namespace Scan

variable {α β : Type} {text rest : List Char}

/-- What follows a reader goes on where it stopped. -/
theorem bind_eq {x : Scan α} {a : α} (read : x text = some (a, rest)) (f : α → Scan β) :
    (x >>= f) text = f a rest := by
  change (x text).bind (fun p => f p.1 p.2) = _
  rw [read, Option.bind_some]

/-- A reader that succeeds whatever the text passes its value on. -/
theorem liftM_bind_eq {x : Option α} {a : α} (found : x = some a) (f : α → Scan β) :
    ((liftM x : Scan α) >>= f) text = f a text := by
  subst found
  rfl

/-- Whatever is read has a property. -/
def Yields (x : Scan α) (p : α → Prop) : Prop :=
  ∀ text a rest, x text = some (a, rest) → p a

/-- What the last step yields, the whole scan yields. -/
theorem Yields.bind {p : β → Prop} (x : Scan α) {f : α → Scan β} (last : ∀ a, (f a).Yields p) :
    (x >>= f).Yields p := by
  intro text b rest read
  obtain ⟨⟨a, middle⟩, -, later⟩ := Option.bind_eq_some_iff.mp read
  exact last a middle b rest later

/-- A scan that takes a value as it is yields what holds of the value. -/
theorem yields_liftM {p : α → Prop} {x : Option α} (found : ∀ a, x = some a → p a) :
    (liftM x : Scan α).Yields p := by
  intro text a rest read
  obtain ⟨b, hb, same⟩ := Option.bind_eq_some_iff.mp read
  cases same
  exact found a hb

/-- A digit is not blank. -/
theorem not_isBlank_of_isDigit {c : Char} (digit : isDigit c) : Blank.isBlank c = false := by
  obtain ⟨d, small, rfl⟩ := Decimal.exists_digitChar_of_isDigit digit
  have none_blank : ∀ d < 10, Blank.isBlank (Nat.digitChar d) = false := by decide
  exact none_blank d small

/-- Nothing is passed over where no blank stands. -/
theorem blanks_cons {c : Char} (visible : Blank.isBlank c = false) (rest : List Char) :
    blanks (c :: rest) = some ((), c :: rest) := by
  have stays : Blank.skip (c :: rest) = c :: rest :=
    List.dropWhile_cons_of_neg (by simp [visible])
  change some ((), Blank.skip (c :: rest)) = _
  rw [stays]

/-- A character that fits is taken. -/
theorem one_cons (p : Char → Bool) {c : Char} (fits : p c = true) (rest : List Char) :
    one p (c :: rest) = some (c, rest) :=
  if_pos fits

/-- A mark is taken where it stands. -/
theorem mark_cons {c : Char} (visible : Blank.isBlank c = false) (rest : List Char) :
    mark c (c :: rest) = some ((), rest) := by
  unfold mark
  rw [bind_eq (blanks_cons visible rest), bind_eq (one_cons (· == c) (beq_self_eq_true c) rest)]
  rfl

/-- Digits are read up to the width that is asked for, or up to something else before it. -/
theorem digits_append {width : Nat} {ds : List Char} (some_digit : ds ≠ [])
    (fits : ds.length ≤ width) (all : ∀ c ∈ ds, isDigit c) {rest : List Char}
    (stops : (rest.take (width - ds.length)).takeWhile isDigit = []) :
    digits width (ds ++ rest) = some (ds, rest) := by
  have front : ((ds ++ rest).take width).takeWhile isDigit = ds := by
    rw [List.take_append, List.take_of_length_le fits, List.takeWhile_append_of_pos all, stops,
      List.append_nil]
  unfold digits
  simp only [front, List.isEmpty_iff, some_digit, if_false, List.drop_left]

section Padded

variable {width n : Nat} (positive : 0 < width) (small : n < scale width)

include positive small

/-- A number that fits is padded to the width. -/
theorem length_padded : (padded width n).length = width := by
  rw [Decimal.length_padded small]
  exact Nat.max_eq_left positive

/-- The digits of a number that fills its places, whatever follows. -/
theorem digits_padded (rest : List Char) :
    digits width (padded width n ++ rest) = some (padded width n, rest) := by
  have long := length_padded positive small
  refine digits_append (Decimal.padded_ne_nil width n) (Nat.le_of_eq long)
    (fun c => Decimal.isDigit_of_mem_padded) ?_
  rw [long, Nat.sub_self]
  rfl

/-- A padded number is read back. -/
theorem number_padded (rest : List Char) :
    number width (padded width n ++ rest) = some (n, rest) := by
  obtain ⟨c, later, first⟩ := List.exists_cons_of_ne_nil (Decimal.padded_ne_nil width n)
  have visible : Blank.isBlank c = false :=
    not_isBlank_of_isDigit (Decimal.isDigit_of_mem_padded (first ▸ List.mem_cons_self))
  have front := blanks_cons visible (later ++ rest)
  rw [← List.cons_append, ← first] at front
  unfold number
  rw [bind_eq front, bind_eq (digits_padded positive small rest), Decimal.accumulate_padded]
  rfl

/-- A fraction of up to nine digits is read in nanoseconds, up to the first character that is no
digit. -/
theorem fraction_padded (atMost : width ≤ 9) {c : Char} (other : isDigit c = false)
    (rest : List Char) :
    fraction ('.' :: padded width n ++ c :: rest) = some (n * scale (9 - width), c :: rest) := by
  have long := length_padded positive small
  have read : digits 9 (padded width n ++ c :: rest) = some (padded width n, c :: rest) := by
    refine digits_append (Decimal.padded_ne_nil width n) (Nat.le_trans (Nat.le_of_eq long) atMost)
      (fun c => Decimal.isDigit_of_mem_padded) ?_
    cases 9 - (padded width n).length with
    | zero => rfl
    | succ spare => exact List.takeWhile_cons_of_neg (by simp [other])
  have none_left : (c :: rest).dropWhile isDigit = c :: rest :=
    List.dropWhile_cons_of_neg (by simp [other])
  change (digits 9 >>= fun ds => modify (·.dropWhile isDigit) >>= fun _ =>
    pure (Decimal.accumulate 0 ds * scale (9 - ds.length))) (padded width n ++ c :: rest) = _
  rw [bind_eq read]
  change some (_, (c :: rest).dropWhile isDigit) = _
  rw [none_left, Decimal.accumulate_padded, long]

end Padded

/-- A number of any length is read up to the first character that is no digit. -/
theorem longNumber_padded (width n : Nat) {c : Char} (other : isDigit c = false)
    (rest : List Char) :
    longNumber (padded width n ++ c :: rest) = some (n, c :: rest) := by
  have all : ∀ d ∈ padded width n, isDigit d := fun d => Decimal.isDigit_of_mem_padded
  have front : (padded width n ++ c :: rest).takeWhile isDigit = padded width n := by
    rw [List.takeWhile_append_of_pos all, List.takeWhile_cons_of_neg (by simp [other]),
      List.append_nil]
  have value : Decimal.number? (padded width n) = some n := by
    rw [Decimal.number?, if_pos ⟨Decimal.padded_ne_nil width n, List.all_eq_true.mpr all⟩,
      Decimal.accumulate_padded]
  unfold longNumber
  simp only [front, value, List.drop_left]
  rfl

/-- Before a character that is no blank and no sign, a year is four digits. -/
theorem year_cons {c : Char} (visible : Blank.isBlank c = false) (minus : c ≠ '-') (plus : c ≠ '+')
    (rest : List Char) :
    year (c :: rest) =
      (digits 4 >>= fun ds => pure (Decimal.accumulate 0 ds : Int)) (c :: rest) := by
  unfold year
  rw [bind_eq (blanks_cons visible rest)]
  change StateT.bind _ _ _ = _
  simp [StateT.bind, get, getThe, MonadStateOf.get, StateT.get, minus, plus]

/-- A year is read up to the dash that follows it: one from 0 to 9999 by its four digits, any other
by its sign. -/
theorem year_yearChars (y : Int) (rest : List Char) :
    year (yearChars y ++ '-' :: rest) = some (y, '-' :: rest) := by
  unfold yearChars
  split_ifs with negative large
  · unfold year
    rw [List.cons_append, bind_eq (blanks_cons rfl _)]
    change (longNumber >>= fun n => pure (-(n : Int))) _ = _
    rw [bind_eq (longNumber_padded 4 y.natAbs rfl rest)]
    change some (-(y.natAbs : Int), '-' :: rest) = _
    rw [Int.ofNat_natAbs_of_nonpos (Int.le_of_lt negative), Int.neg_neg]
  · unfold year
    rw [List.cons_append, bind_eq (blanks_cons rfl _)]
    change (longNumber >>= fun n => pure (n : Int)) _ = _
    rw [bind_eq (longNumber_padded 4 y.natAbs rfl rest)]
    change some ((y.natAbs : Int), '-' :: rest) = _
    rw [Int.natAbs_of_nonneg (by omega)]
  · have small : y.natAbs < scale 4 := by
      rw [Decimal.scale_eq]
      omega
    obtain ⟨c, later, first⟩ := List.exists_cons_of_ne_nil (Decimal.padded_ne_nil 4 y.natAbs)
    have digit : isDigit c := Decimal.isDigit_of_mem_padded (first ▸ List.mem_cons_self)
    have front := year_cons (not_isBlank_of_isDigit digit)
      (fun h => by rw [h] at digit; cases digit)
      (fun h => by rw [h] at digit; cases digit) (later ++ '-' :: rest)
    rw [← List.cons_append, ← first, bind_eq (digits_padded (by omega) small ('-' :: rest)),
      Decimal.accumulate_padded] at front
    rw [front]
    change some ((y.natAbs : Int), '-' :: rest) = _
    rw [Int.natAbs_of_nonneg (by omega)]

/-- The nanoseconds that are written are read up to the final letter. -/
theorem fraction_fraction {nano : Nat} (small : nano < nanosPerSecond) :
    fraction (Timestamp.fraction nano ++ ['Z']) = some (nano, ['Z']) := by
  unfold nanosPerSecond at small
  have exact_of (width unit : Nat) (positive : 0 < width) (atMost : width ≤ 9)
      (scaled : scale (9 - width) = unit) (whole : scale width * unit = 1000000000)
      (exact : nano % unit = 0) :
      fraction ('.' :: padded width (nano / unit) ++ ['Z']) = some (nano, ['Z']) := by
    have inside : nano / unit < scale width := by
      apply Nat.div_lt_of_lt_mul
      rwa [Nat.mul_comm, whole]
    rw [fraction_padded positive inside atMost rfl [], scaled,
      Nat.div_mul_cancel (Nat.dvd_of_mod_eq_zero exact)]
  unfold Timestamp.fraction
  split_ifs with none thousandths millionths
  · rw [none]
    rfl
  · exact exact_of 3 1000000 (by decide) (by decide) rfl rfl thousandths
  · exact exact_of 6 1000 (by decide) (by decide) rfl rfl millionths
  · have all := exact_of 9 1 (by decide) (by decide) rfl rfl (Nat.mod_one nano)
    rwa [Nat.div_one] at all

/-- The letter `Z` stands for no offset. -/
theorem offset_zulu (rest : List Char) : offset ('Z' :: rest) = some (0, rest) :=
  rfl

end Scan

/-- A moment is its own local time where there is no offset. -/
theorem ofLocal?_utc (t : Timestamp) (inRange : t.date.inRange = true) :
    ofLocal? t.date t.second t.nano 0 = some t := by
  have sound : t.second < secondsPerDay ∧ t.nano < 2 * nanosPerSecond ∧
      (nanosPerSecond ≤ t.nano → t.second % 60 = 59) := ⟨t.second_lt, t.nano_lt, t.leap⟩
  have early : ¬ ((t.second : Int) - 60 * 0 < 0) := by omega
  have late : ¬ ((secondsPerDay : Int) ≤ (t.second : Int) - 60 * 0) := by
    have := t.second_lt
    omega
  have same : ((t.second : Int) - 60 * 0).toNat = t.second := by omega
  unfold ofLocal?
  simp only [early, late, if_false, same, sound, inRange, if_true]
  exact dif_pos ⟨trivial, trivial, t.leap⟩

/-- A date is made from its parts. -/
theorem ofParts?_date (d : Date) : Date.ofParts? d.year d.month d.day = some d :=
  dif_pos ⟨d.month_valid, d.day_valid⟩

/-- No month has more than thirty-one days. -/
theorem daysIn_le (year : Int) (month : Nat) : daysIn year month ≤ 31 := by
  unfold daysIn
  split_ifs <;> omega

/-- A second that is written as the sixtieth is the leap second after the fifty-ninth. -/
theorem second_written (t : Timestamp) :
    (if t.second % 60 + t.nano / nanosPerSecond = 60 then
        (59, t.nano % nanosPerSecond + nanosPerSecond)
      else (t.second % 60 + t.nano / nanosPerSecond, t.nano % nanosPerSecond)) =
      (t.second % 60, t.nano) := by
  have nano_lt := t.nano_lt
  have leap := t.leap
  unfold nanosPerSecond at *
  split_ifs with sixtieth
  · have billion : t.nano / 1000000000 = 1 := by omega
    have before : t.second % 60 = 59 := by omega
    have nano : t.nano % 1000000000 + 1000000000 = t.nano := by omega
    rw [before, nano]
  · have plain : t.nano < 1000000000 := by
      by_contra large
      have before := leap (by omega)
      omega
    rw [Nat.div_eq_of_lt plain, Nat.mod_eq_of_lt plain, Nat.add_zero]

/-- The reader of a moment passes over the whole of what is written. -/
theorem scan_chars (t : Timestamp) (inRange : t.date.inRange = true) :
    scan t.chars = some (t, []) := by
  have hundred : ∀ n < 100, n < scale 2 := fun n h => h
  have dash : Blank.isBlank '-' = false := rfl
  have colon : Blank.isBlank ':' = false := rfl
  have month : t.date.month < scale 2 := hundred _ (by have := t.date.month_valid; omega)
  have day : t.date.day < scale 2 :=
    hundred _ (by have := t.date.day_valid; have := daysIn_le t.date.year t.date.month; omega)
  have second_lt : t.second < 86400 := t.second_lt
  have nano_lt : t.nano < 2 * 1000000000 := t.nano_lt
  have hour : t.second / 3600 < 24 := by omega
  have minute : t.second / 60 % 60 < 60 := Nat.mod_lt _ (by omega)
  have second : t.second % 60 + t.nano / nanosPerSecond < 61 := by
    unfold nanosPerSecond
    omega
  unfold scan chars
  dsimp only
  rw [List.append_assoc (padded 2 _),
    Scan.bind_eq (Scan.year_yearChars t.date.year _), Scan.bind_eq (Scan.mark_cons dash _),
    Scan.bind_eq (Scan.number_padded (by decide) month _), Scan.bind_eq (Scan.mark_cons dash _),
    Scan.bind_eq (Scan.number_padded (by decide) day _), Scan.bind_eq (Scan.one_cons _ rfl _),
    Scan.bind_eq (Scan.number_padded (by decide) (hundred _ (by omega)) _),
    Scan.bind_eq (Scan.mark_cons colon _),
    Scan.bind_eq (Scan.number_padded (by decide) (hundred _ (by omega)) _),
    Scan.bind_eq (Scan.mark_cons colon _),
    Scan.bind_eq (Scan.number_padded (by decide) (hundred _ (by omega)) _),
    Scan.bind_eq (Scan.fraction_fraction (Nat.mod_lt _ (by decide))),
    Scan.bind_eq (Scan.blanks_cons rfl _), Scan.bind_eq (Scan.offset_zulu _)]
  have blanks : Scan.blanks [] = some ((), []) := rfl
  have sound : ¬ (¬ t.date.inRange = true ∨ 24 ≤ t.second / 3600 ∨ 60 ≤ t.second / 60 % 60 ∨
      61 ≤ t.second % 60 + t.nano / nanosPerSecond) := by
    rintro (no | no | no | no)
    · exact no inRange
    all_goals omega
  have whole : 3600 * (t.second / 3600) + 60 * (t.second / 60 % 60) + t.second % 60 = t.second := by
    omega
  rw [Scan.bind_eq blanks, Scan.liftM_bind_eq (ofParts?_date t.date), if_neg sound,
    t.second_written, whole, ofLocal?_utc t inRange]
  rfl

/-- A moment is read back from its text, in every year that moments are read in. -/
theorem parse?_text (t : Timestamp) (inRange : t.date.inRange = true) :
    parse? t.text = some t := by
  rw [parse?, text, String.toList_ofList, ofChars?, scan_chars t inRange]

/-! ### What is read -/

/-- What a local time is read as lies in a year that is covered. -/
theorem inRange_of_ofLocal? {date : Date} {second nano : Nat} {offset : Int} {t : Timestamp}
    (read : ofLocal? date second nano offset = some t) : t.date.inRange = true := by
  simp only [ofLocal?, Option.dite_none_right_eq_some, Option.ite_none_right_eq_some] at read
  obtain ⟨_, inRange, made⟩ := read
  exact Option.some.inj made ▸ inRange

/-- Moments are read only in the years that they can be written in. -/
theorem scan_yields_inRange : scan.Yields fun t => t.date.inRange = true := by
  unfold scan
  iterate 16 refine .bind _ fun _ => ?_
  intro text t rest read
  dsimp only at read
  split at read
  · cases read
  · exact Scan.yields_liftM (fun _ => inRange_of_ofLocal?) text t rest read

/-- A moment that is read is one that is read back. -/
theorem inRange_of_parse? {text : String} {t : Timestamp} (read : parse? text = some t) :
    t.date.inRange = true := by
  unfold parse? ofChars? at read
  split at read
  case h_1 found =>
    cases read
    exact scan_yields_inRange _ _ _ found
  case h_2 => cases read

end Timestamp

end Parley
