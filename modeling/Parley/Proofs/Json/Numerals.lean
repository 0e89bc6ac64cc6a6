import Mathlib.Tactic.IntervalCases
import Mathlib.Tactic.SplitIfs
import Parley.Proofs.Json.Grammar
import Parley.Proofs.Json.Run
import Parley.Proofs.Text.Digits

/-!
# Numerals against the grammar

The reader takes a numeral one character at a time. Between two characters it has read a beginning
of one, and `InNumeral` says which beginnings lead to which phase and numeral. Every character that
is taken leads from such a beginning to the next (`InNumeral.extend`), and a numeral that is spelled
is read up to where it may end (`run_numeral`).
-/

namespace Parley

namespace Json

/-- A digit after those that stand already, if any do. -/
theorem Digits.concat {ds : List Char} (all : ∀ c ∈ ds, Decimal.isDigit c) {c : Char} {d : Nat}
    (digit : Decimal.value? c = some d) : Digits (ds ++ [c]) := by
  obtain ⟨small, rfl⟩ := Decimal.value?_eq_some_iff.mp digit
  refine ⟨by simp, fun c inside => ?_⟩
  rcases List.mem_append.mp inside with earlier | last
  · exact all c earlier
  · obtain rfl := List.mem_singleton.mp last
    interval_cases d <;> rfl

namespace Reader

/-! ### Digits that are read -/

/-- A reader takes what extends its numeral. -/
theorem step_numeral {phase next : Phase} {n m : Numeral} {c : Char} (stack : List Container)
    (taken : extend phase n c = some (next, m)) :
    step ⟨stack, .numeral phase n⟩ (some c) = some ⟨stack, .numeral next m⟩ := by
  simp [step, stepChar, taken]

/-- The phase after the whole part of a numeral. -/
def wholePhase (whole : Nat) : Phase :=
  if whole = 0 then .zero else .whole

/-- The whole part of a numeral is read from the digits of a number. -/
theorem run_digits (stack : List Container) (negative : Bool) (n : Nat) :
    run ⟨stack, .numeral .sign ⟨negative, 0, none, none⟩⟩ (Decimal.digits n)
      = some ⟨stack, .numeral (wholePhase n) ⟨negative, n, none, none⟩⟩ := by
  induction n using Nat.strongRecOn with
  | ind n ih =>
    rcases Nat.lt_or_ge n 10 with single | more
    · have value := Decimal.value?_digitChar single
      rw [Decimal.digits_of_lt single]
      simp [step, stepChar, extend, value, wholePhase]
    · have value := Decimal.value?_digitChar (Nat.mod_lt n (by omega : 0 < 10))
      have joined : 10 * (n / 10) + n % 10 = n := by omega
      have first : wholePhase (n / 10) = .whole := by simp [wholePhase]; omega
      have all : wholePhase n = .whole := by simp [wholePhase]; omega
      rw [Decimal.digits_of_le more, run_append_of_eq (ih (n / 10) (by omega)), first, all]
      simp [step, stepChar, extend, value, joined]

/-- The fraction of a numeral is read digit by digit. -/
theorem run_fraction (stack : List Container) (negative : Bool) (whole value places : Nat)
    {digits : List Char} (all : ∀ c ∈ digits, Decimal.isDigit c) :
    run ⟨stack, .numeral .fraction ⟨negative, whole, some (value, places), none⟩⟩ digits
      = some ⟨stack, .numeral .fraction ⟨negative, whole,
          some (Decimal.accumulate value digits, places + digits.length), none⟩⟩ := by
  induction digits generalizing value places with
  | nil => rfl
  | cons c rest ih =>
    have digit := Decimal.value?_of_isDigit (all c (by simp))
    have taken : extend .fraction ⟨negative, whole, some (value, places), none⟩ c
        = some (.fraction,
            ⟨negative, whole, some (10 * value + (c.toNat - '0'.toNat), places + 1), none⟩) := by
      simp [extend, digit]
    rw [run_cons, step_numeral stack taken, Option.bind_some,
      ih _ _ fun d inside => all d (by simp [inside])]
    simp [Decimal.accumulate, Nat.add_assoc, Nat.add_comm 1]

/-- The places of a decimal, at least one, follow its point. -/
theorem run_places (stack : List Container) (negative : Bool) (whole : Nat) {digits : List Char}
    (all : ∀ c ∈ digits, Decimal.isDigit c) (some_digit : digits ≠ []) :
    run ⟨stack, .numeral (wholePhase whole) ⟨negative, whole, none, none⟩⟩ ('.' :: digits)
      = some ⟨stack, .numeral .fraction
          ⟨negative, whole, some (Decimal.accumulate 0 digits, digits.length), none⟩⟩ := by
  obtain ⟨c, rest, rfl⟩ := List.exists_cons_of_ne_nil some_digit
  have digit := Decimal.value?_of_isDigit (all c (by simp))
  have noDigit : Decimal.value? '.' = none := by decide
  have point : extend (wholePhase whole) ⟨negative, whole, none, none⟩ '.'
      = some (.point, ⟨negative, whole, some (0, 0), none⟩) := by
    rcases Nat.eq_zero_or_pos whole with rfl | positive
    · simp [extend, wholePhase, noDigit]
    · simp [extend, wholePhase, noDigit, Nat.ne_of_gt positive]
  have taken : extend .point ⟨negative, whole, some (0, 0), none⟩ c
      = some (.fraction, ⟨negative, whole, some (c.toNat - '0'.toNat, 1), none⟩) := by
    simp [extend, digit]
  rw [run_cons, step_numeral stack point, Option.bind_some, run_cons, step_numeral stack taken,
    Option.bind_some, run_fraction _ _ _ _ _ fun d inside => all d (by simp [inside])]
  simp [Decimal.accumulate, Nat.add_comm 1]

/-- A digit begins a value as it begins a numeral without sign. -/
theorem step_value_digit (stack : List Container) {c : Char} (digit : Decimal.isDigit c) :
    step ⟨stack, .value⟩ (some c)
      = step ⟨stack, .numeral .sign ⟨false, 0, none, none⟩⟩ (some c) := by
  obtain ⟨d, small, rfl⟩ := Decimal.exists_digitChar_of_isDigit digit
  interval_cases d <;> rfl

/-- An optional minus sign and the whole part of a numeral. -/
theorem run_whole (stack : List Container) (negative : Bool) (n : Nat) :
    run ⟨stack, .value⟩ ((if negative then ['-'] else []) ++ Decimal.digits n)
      = some ⟨stack, .numeral (wholePhase n) ⟨negative, n, none, none⟩⟩ := by
  cases negative with
  | true => exact run_digits stack true n
  | false =>
    have read := run_digits stack false n
    obtain ⟨c, rest, digits⟩ := List.exists_cons_of_ne_nil (Decimal.digits_ne_nil n)
    have digit : Decimal.isDigit c := Decimal.isDigit_of_mem_digits (n := n) (by simp [digits])
    rw [digits, run_cons] at read
    simpa [digits, step_value_digit stack digit] using read

/-! ### Numerals -/

/-- The beginnings of a numeral, with the phase and the numeral that each leads to. -/
inductive InNumeral : Phase → Numeral → List Char → Prop
  | sign : InNumeral .sign ⟨true, 0, none, none⟩ ['-']
  | whole {negative : Bool} {whole : Nat} :
    InNumeral (wholePhase whole) ⟨negative, whole, none, none⟩ (wholeText negative whole)
  | point {negative : Bool} {whole : Nat} :
    InNumeral .point ⟨negative, whole, some (0, 0), none⟩ (wholeText negative whole ++ ['.'])
  | fraction {negative : Bool} {whole : Nat} {ds : List Char} (digits : Digits ds) :
    InNumeral .fraction ⟨negative, whole, some (Decimal.accumulate 0 ds, ds.length), none⟩
      (wholeText negative whole ++ '.' :: ds)
  | mark {negative : Bool} {whole : Nat} {fraction : Option (Nat × Nat)} {f : List Char} {c : Char}
    (broken : Fraction fraction f) (letter : c = 'e' ∨ c = 'E') :
    InNumeral .mark ⟨negative, whole, fraction, some (false, 0)⟩
      (wholeText negative whole ++ f ++ [c])
  | markSign {negative minus : Bool} {whole : Nat} {fraction : Option (Nat × Nat)} {f : List Char}
    {c sign : Char} (broken : Fraction fraction f) (letter : c = 'e' ∨ c = 'E')
    (signed : ExponentSign minus [sign]) :
    InNumeral .markSign ⟨negative, whole, fraction, some (minus, 0)⟩
      (wholeText negative whole ++ f ++ [c, sign])
  | exponent {negative minus : Bool} {whole : Nat} {fraction : Option (Nat × Nat)}
    {f sign ds : List Char} {c : Char} (broken : Fraction fraction f) (letter : c = 'e' ∨ c = 'E')
    (signed : ExponentSign minus sign) (digits : Digits ds) :
    InNumeral .exponent
      ⟨negative, whole, fraction, some (minus, Decimal.accumulate 0 ds)⟩
      (wholeText negative whole ++ f ++ (c :: sign ++ ds))

/-- Where a numeral may end, it is spelled. -/
theorem InNumeral.spells {phase : Phase} {n : Numeral} {text : List Char}
    (inside : InNumeral phase n text) (complete : phase.complete) : n.Spells text := by
  cases inside with
  | sign => cases complete
  | whole => simpa using Numeral.Spells.parts .absent .absent
  | point => cases complete
  | fraction digits => simpa using Numeral.Spells.parts (.point digits) .absent
  | mark => cases complete
  | markSign => cases complete
  | exponent broken letter signed digits => exact .parts broken (.mark letter signed digits)

/-- A digit after a whole part other than zero is its last digit. -/
theorem digits_concat {whole d : Nat} {c : Char} (positive : whole ≠ 0)
    (digit : Decimal.value? c = some d) :
    Decimal.digits (10 * whole + d) = Decimal.digits whole ++ [c] := by
  obtain ⟨small, rfl⟩ := Decimal.value?_eq_some_iff.mp digit
  have split : (10 * whole + d) / 10 = whole ∧ (10 * whole + d) % 10 = d := by omega
  rw [Decimal.digits_of_le (by omega), split.1, split.2]

/-- The first digit of a numeral. -/
theorem InNumeral.start {phase : Phase} {negative : Bool} {n : Numeral} {c : Char}
    (taken : extend .sign ⟨negative, 0, none, none⟩ c = some (phase, n)) :
    InNumeral phase n ((if negative then ['-'] else []) ++ [c]) := by
  unfold extend at taken
  cases digit : Decimal.value? c with
  | none => rw [digit] at taken; cases taken
  | some d =>
    rw [digit] at taken
    obtain ⟨rfl, rfl⟩ := Prod.mk.inj (Option.some.inj taken)
    obtain ⟨small, rfl⟩ := Decimal.value?_eq_some_iff.mp digit
    have first : (if negative then ['-'] else []) ++ [Nat.digitChar d] = wholeText negative d := by
      rw [wholeText, Decimal.digits_of_lt small]
    rw [first]
    exact .whole

/-- A letter that takes a numeral to its exponent. -/
theorem InNumeral.of_mark {next : Phase} {negative : Bool} {whole : Nat}
    {fraction : Option (Nat × Nat)} {f : List Char} {m : Numeral} {c : Char}
    (broken : Fraction fraction f)
    (taken : (if c = 'e' ∨ c = 'E' then
      some (Phase.mark, (⟨negative, whole, fraction, some (false, 0)⟩ : Numeral)) else none) =
        some (next, m)) : InNumeral next m (wholeText negative whole ++ f ++ [c]) := by
  obtain ⟨letter, same⟩ := Option.ite_none_right_eq_some.mp taken
  obtain ⟨rfl, rfl⟩ := Prod.mk.inj (Option.some.inj same)
  exact .mark broken letter

/-- A digit of a fraction. -/
theorem InNumeral.fraction_concat {negative : Bool} {whole : Nat} {ds : List Char}
    (all : ∀ c ∈ ds, Decimal.isDigit c) {c : Char} {d : Nat} (digit : Decimal.value? c = some d) :
    InNumeral .fraction
      ⟨negative, whole, some (10 * Decimal.accumulate 0 ds + d, ds.length + 1), none⟩
      (wholeText negative whole ++ '.' :: ds ++ [c]) := by
  have value := Decimal.accumulate_concat digit ds
  have longer : ds.length + 1 = (ds ++ [c]).length := by simp
  rw [← value, longer, List.append_assoc, List.cons_append]
  exact .fraction (.concat all digit)

/-- A digit of an exponent. -/
theorem InNumeral.exponent_concat {negative minus : Bool} {whole : Nat}
    {fraction : Option (Nat × Nat)} {f sign ds : List Char} {letter : Char}
    (broken : Fraction fraction f) (isLetter : letter = 'e' ∨ letter = 'E')
    (signed : ExponentSign minus sign) (all : ∀ c ∈ ds, Decimal.isDigit c) {c : Char} {d : Nat}
    (digit : Decimal.value? c = some d) :
    InNumeral .exponent
      ⟨negative, whole, fraction, some (minus, 10 * Decimal.accumulate 0 ds + d)⟩
      (wholeText negative whole ++ f ++ (letter :: sign ++ ds) ++ [c]) := by
  have value := Decimal.accumulate_concat digit ds
  rw [← value, List.append_assoc _ _ [c], List.append_assoc _ ds]
  exact .exponent broken isLetter signed (.concat all digit)

/-- A character that is taken leads from one beginning to another. -/
theorem InNumeral.extend {phase next : Phase} {n m : Numeral} {text : List Char} {c : Char}
    (inside : InNumeral phase n text) (taken : Reader.extend phase n c = some (next, m)) :
    InNumeral next m (text ++ [c]) := by
  cases inside with
  | sign => exact InNumeral.start taken
  | @whole negative whole =>
    unfold Reader.extend at taken
    unfold wholePhase at taken
    cases digit : Decimal.value? c with
    | some d =>
      by_cases zero : whole = 0
      · simp [zero, digit] at taken
      · have positive : 10 * whole + d ≠ 0 := by omega
        simp only [zero, digit, if_false, Option.some.injEq, Prod.mk.injEq] at taken
        obtain ⟨rfl, rfl⟩ := taken
        have phase : Phase.whole = wholePhase (10 * whole + d) := (if_neg positive).symm
        rw [phase, wholeText, List.append_assoc, ← digits_concat zero digit]
        exact .whole
    | none =>
      -- a point or a mark may follow a leading zero as well as any other whole part
      have after : (if c = '.' then
          some (Phase.point, (⟨negative, whole, some (0, 0), none⟩ : Numeral)) else none).or
          (if c = 'e' ∨ c = 'E' then
            some (Phase.mark, (⟨negative, whole, none, some (false, 0)⟩ : Numeral)) else none) =
          some (next, m) := by
        by_cases zero : whole = 0 <;> simpa [zero, digit] using taken
      rcases Option.or_eq_some_iff.mp after with point | ⟨-, mark⟩
      · obtain ⟨rfl, same⟩ := Option.ite_none_right_eq_some.mp point
        obtain ⟨rfl, rfl⟩ := Prod.mk.inj (Option.some.inj same)
        exact .point
      · simpa using InNumeral.of_mark .absent mark
  | @point negative whole =>
    unfold Reader.extend at taken
    cases digit : Decimal.value? c with
    | none => rw [digit] at taken; cases taken
    | some d =>
      rw [digit] at taken
      obtain ⟨rfl, rfl⟩ := Prod.mk.inj (Option.some.inj taken)
      exact .fraction_concat (List.forall_mem_nil _) digit
  | @fraction negative whole ds digits =>
    unfold Reader.extend at taken
    cases digit : Decimal.value? c with
    | none =>
      rw [digit] at taken
      exact InNumeral.of_mark (.point digits) taken
    | some d =>
      rw [digit] at taken
      obtain ⟨rfl, rfl⟩ := Prod.mk.inj (Option.some.inj taken)
      exact .fraction_concat digits.digits digit
  | @mark negative whole fraction f letter' broken letter =>
    unfold Reader.extend at taken
    cases digit : Decimal.value? c with
    | none =>
      rw [digit] at taken
      dsimp only at taken
      rw [List.append_assoc]
      split_ifs at taken with plus minus
      · obtain ⟨rfl, rfl⟩ := Prod.mk.inj (Option.some.inj taken)
        subst plus
        exact .markSign broken letter .plus
      · obtain ⟨rfl, rfl⟩ := Prod.mk.inj (Option.some.inj taken)
        subst minus
        exact .markSign broken letter .minus
    | some d =>
      rw [digit] at taken
      obtain ⟨rfl, rfl⟩ := Prod.mk.inj (Option.some.inj taken)
      exact .exponent_concat broken letter .absent (List.forall_mem_nil _) digit
  | @markSign negative minus whole fraction f letter' sign broken letter signed =>
    unfold Reader.extend at taken
    cases digit : Decimal.value? c with
    | none => rw [digit] at taken; cases taken
    | some d =>
      rw [digit] at taken
      obtain ⟨rfl, rfl⟩ := Prod.mk.inj (Option.some.inj taken)
      exact .exponent_concat broken letter signed (List.forall_mem_nil _) digit
  | @exponent negative minus whole fraction f sign ds letter' broken letter signed digits =>
    unfold Reader.extend at taken
    cases digit : Decimal.value? c with
    | none => rw [digit] at taken; cases taken
    | some d =>
      rw [digit] at taken
      obtain ⟨rfl, rfl⟩ := Prod.mk.inj (Option.some.inj taken)
      exact .exponent_concat broken letter signed digits.digits digit

/-! ### Numerals that are spelled -/

section

variable (stack : List Container) (negative : Bool) (whole : Nat) (fraction : Option (Nat × Nat))

/-- The digits of an exponent are read. -/
theorem run_exponentDigits (minus : Bool) {phase : Phase}
    (inside : phase ∈ [Phase.mark, .markSign, .exponent]) {ds : List Char} (digits : Digits ds)
    (value : Nat) :
    run ⟨stack, .numeral phase ⟨negative, whole, fraction, some (minus, value)⟩⟩ ds =
      some ⟨stack, .numeral .exponent
        ⟨negative, whole, fraction, some (minus, Decimal.accumulate value ds)⟩⟩ := by
  induction ds generalizing phase value with
  | nil => exact absurd rfl digits.some_digit
  | cons c rest ih =>
    have digit := Decimal.value?_of_isDigit (digits.digits c (by simp))
    have taken : extend phase ⟨negative, whole, fraction, some (minus, value)⟩ c =
        some (.exponent, ⟨negative, whole, fraction,
          some (minus, 10 * value + (c.toNat - '0'.toNat))⟩) := by
      simp only [List.mem_cons, List.not_mem_nil, or_false] at inside
      rcases inside with rfl | rfl | rfl <;> simp [extend, digit]
    rw [run_cons, step_numeral stack taken, Option.bind_some]
    cases rest with
    | nil => rfl
    | cons next rest =>
      exact ih (by simp) ⟨by simp, fun d inside => digits.digits d (by simp [inside])⟩ _

/-- An exponent follows a whole part or a fraction. -/
theorem run_exponent {phase : Phase} (inside : phase ∈ [Phase.zero, .whole, .fraction])
    {exponent : Option (Bool × Nat)} {e : List Char} (scaled : Exponent exponent e) :
    ∃ next, run ⟨stack, .numeral phase ⟨negative, whole, fraction, none⟩⟩ e =
      some ⟨stack, .numeral next ⟨negative, whole, fraction, exponent⟩⟩ ∧ next.complete := by
  cases scaled with
  | absent =>
    refine ⟨phase, rfl, ?_⟩
    simp only [List.mem_cons, List.not_mem_nil, or_false] at inside
    rcases inside with rfl | rfl | rfl <;> rfl
  | @mark letter minus sign ds isLetter signed digits =>
    have noDigit : Decimal.value? 'e' = none ∧ Decimal.value? 'E' = none := by decide
    have taken : extend phase ⟨negative, whole, fraction, none⟩ letter =
        some (.mark, ⟨negative, whole, fraction, some (false, 0)⟩) := by
      simp only [List.mem_cons, List.not_mem_nil, or_false] at inside
      rcases isLetter with rfl | rfl <;> rcases inside with rfl | rfl | rfl <;>
        simp [extend, noDigit]
    refine ⟨.exponent, ?_, rfl⟩
    rw [List.cons_append, run_cons, step_numeral stack taken, Option.bind_some]
    have noSign : Decimal.value? '+' = none ∧ Decimal.value? '-' = none := by decide
    cases signed with
    | absent => exact run_exponentDigits _ _ _ _ _ (by simp) digits _
    | plus =>
      have sign : extend .mark ⟨negative, whole, fraction, some (false, 0)⟩ '+' =
          some (.markSign, ⟨negative, whole, fraction, some (false, 0)⟩) := by
        simp [extend, noSign]
      rw [List.singleton_append, run_cons, step_numeral stack sign]
      exact run_exponentDigits _ _ _ _ _ (by simp) digits _
    | minus =>
      have sign : extend .mark ⟨negative, whole, fraction, some (false, 0)⟩ '-' =
          some (.markSign, ⟨negative, whole, fraction, some (true, 0)⟩) := by
        simp [extend, noSign]
      rw [List.singleton_append, run_cons, step_numeral stack sign]
      exact run_exponentDigits _ _ _ _ _ (by simp) digits _

end

/-- A numeral that is spelled is read up to where it may end. -/
theorem run_numeral (stack : List Container) {n : Numeral} {text : List Char}
    (spelled : n.Spells text) :
    ∃ phase, run ⟨stack, .value⟩ text = some ⟨stack, .numeral phase n⟩ ∧ phase.complete := by
  cases spelled with
  | @parts negative whole fraction exponent f e broken scaled =>
    have head := run_whole stack negative whole
    cases broken with
    | absent =>
      have inside : wholePhase whole ∈ [Phase.zero, .whole, .fraction] := by
        unfold wholePhase
        split <;> simp
      rw [List.append_nil, wholeText, run_append_of_eq head]
      exact run_exponent stack negative whole none inside scaled
    | @point ds digits =>
      have places := run_places stack negative whole digits.digits digits.some_digit
      rw [List.append_assoc, wholeText, run_append_of_eq head, run_append_of_eq places]
      exact run_exponent stack negative whole _ (by simp) scaled

end Reader

end Json

end Parley
