import Mathlib.Data.List.Induction
import Mathlib.Tactic.SplitIfs
import Parley.Proofs.Json.Grammar
import Parley.Proofs.Json.Run

/-!
# String literals against the grammar

The reader takes a literal one character at a time. Between two characters it has read a beginning
of one, and `InLiteral` says which beginnings lead to which literal. Every character that is taken
leads from such a beginning to the next (`InLiteral.step`), and pieces that are spelled are read to
their end (`run_pieces`). What the literal then stands for is what its pieces do
(`Literal.text_after`).
-/

namespace Parley

namespace Json.Reader

/-! ### What pieces leave of a literal -/

/-- A sound literal between two characters. -/
def reading (reversed : List Char) : Literal := { reversed }

namespace Literal

/-- A literal with a piece more. -/
def add (l : Literal) : Piece → Literal
  | .char c => l.push c
  | .unit n => l.pushUnit n

/-- A literal that consists of the pieces. -/
def after (pieces : List Piece) : Literal :=
  pieces.foldl add {}

/-- A piece more is added to the pieces before it. -/
theorem after_concat (pieces : List Piece) (piece : Piece) :
    after (pieces ++ [piece]) = (after pieces).add piece := by
  simp [after]

/-- The first half of a surrogate pair waits for the second. -/
theorem add_of_high (l : Literal) {n : Nat} (high : Piece.IsHigh n) :
    l.add (.unit n) = { l.settle with high := some n, escape := .none } :=
  if_pos high

/-- The second half of a surrogate pair makes a character with the first, and is a fault alone. -/
theorem add_of_low (l : Literal) {n : Nat} (low : Piece.IsLow n) :
    l.add (.unit n) =
      match l.high with
      | some high =>
        { l with
          reversed := Char.ofNat (0x10000 + (high - 0xD800) * 0x400 + (n - 0xDC00)) :: l.reversed
          high := none, escape := .none }
      | none => { l with fault := some .surrogate, escape := .none } := by
  have notHigh : ¬Piece.IsHigh n := fun high => Nat.not_lt.mpr low.1 high.2
  exact (if_neg notHigh).trans (if_pos low)

/-- A code unit outside the surrogates is a character. -/
theorem add_of_plain (l : Literal) {n : Nat} (notHigh : ¬Piece.IsHigh n) (notLow : ¬Piece.IsLow n) :
    l.add (.unit n) = l.push (Char.ofNat n) :=
  (if_neg notHigh).trans (if_neg notLow)

/-- What adding a piece does to a literal, case by case. -/
theorem add_cases (l : Literal) (piece : Piece) :
    (∃ c, l.add piece = l.push c) ∨
      (∃ n, l.add piece = { l.settle with high := some n, escape := .none }) ∨
      (∃ n high c, piece = .unit n ∧ Piece.IsLow n ∧ l.high = some high ∧
        l.add piece = { l with reversed := c :: l.reversed, high := none, escape := .none }) ∨
      l.add piece = { l with fault := some .surrogate, escape := .none } := by
  cases piece with
  | char c => exact .inl ⟨c, rfl⟩
  | unit n =>
    by_cases high : Piece.IsHigh n
    · exact .inr (.inl ⟨n, l.add_of_high high⟩)
    · by_cases low : Piece.IsLow n
      · have added := l.add_of_low low
        cases waits : l.high with
        | none => rw [waits] at added; exact .inr (.inr (.inr added))
        | some first =>
          rw [waits] at added
          exact .inr (.inr (.inl ⟨n, first, _, rfl, low, rfl, added⟩))
      · exact .inl ⟨_, l.add_of_plain high low⟩

/-- After a piece no escape is under way. -/
theorem escape_add (l : Literal) (piece : Piece) : (l.add piece).escape = .none := by
  rcases l.add_cases piece with ⟨c, added⟩ | ⟨n, added⟩ | ⟨n, high, c, -, -, -, added⟩ | added <;>
    rw [added]
  rfl

/-- After any pieces no escape is under way. -/
theorem escape_after (pieces : List Piece) : (after pieces).escape = .none := by
  induction pieces using List.reverseRecOn with
  | nil => rfl
  | append_singleton pieces piece =>
    rw [after_concat]
    exact escape_add _ _

/-- A piece is added to what was read before its escape. -/
theorem add_escape (l : Literal) (e : Escape) (piece : Piece) :
    ({ l with escape := e } : Literal).add piece = l.add piece := by
  obtain ⟨reversed, high, fault, escape⟩ := l
  cases piece <;> cases high <;> rfl

/-- A code unit is added to what was read before its escape. -/
theorem pushUnit_escape (l : Literal) (e : Escape) (n : Nat) :
    ({ l with escape := e } : Literal).pushUnit n = l.pushUnit n :=
  l.add_escape e (.unit n)

/-- A fault stays when a waiting half is settled. -/
theorem fault_settle {l : Literal} (fault : l.fault = some .surrogate) :
    l.settle.fault = some .surrogate := by
  unfold settle
  split
  · exact fault
  · rfl

/-- A fault stays. -/
theorem fault_add {l : Literal} (fault : l.fault = some .surrogate) (piece : Piece) :
    (l.add piece).fault = some .surrogate := by
  rcases l.add_cases piece with ⟨c, added⟩ | ⟨n, added⟩ | ⟨n, high, c, -, -, -, added⟩ | added <;>
    rw [added]
  · exact fault_settle fault
  · exact fault_settle fault
  · exact fault

/-- Where a high surrogate waits, anything but its other half leaves a fault. -/
theorem fault_add_of_high {l : Literal} {first : Nat} (waits : l.high = some first) {piece : Piece}
    (other : ∀ n, piece = .unit n → ¬Piece.IsLow n) : (l.add piece).fault = some .surrogate := by
  have settled : l.settle.fault = some .surrogate := by simp [settle, waits]
  rcases l.add_cases piece with ⟨c, added⟩ | ⟨n, added⟩ | ⟨n, high, c, unit, low, -⟩ | added
  · rw [added]; exact settled
  · rw [added]; exact settled
  · exact absurd low (other n unit)
  · rw [added]

/-- A literal that ends with a fault stands for no text. -/
theorem text_of_fault_settle {l : Literal} (fault : l.settle.fault = some .surrogate) :
    l.text = .error .surrogate := by
  unfold text
  simp [fault]

/-- A literal with a fault stands for no text, whatever follows. -/
theorem text_foldl_of_fault {l : Literal} (fault : l.fault = some .surrogate)
    (pieces : List Piece) : (pieces.foldl add l).text = .error .surrogate := by
  induction pieces generalizing l with
  | nil => exact text_of_fault_settle (fault_settle fault)
  | cons piece rest ih => exact ih (fault_add fault piece)

/-- A high surrogate that its other half does not follow stands for no text. -/
theorem text_foldl_of_high {l : Literal} {first : Nat} (waits : l.high = some first)
    {pieces : List Piece} (other : ∀ m more, pieces = .unit m :: more → ¬Piece.IsLow m) :
    (pieces.foldl add l).text = .error .surrogate := by
  cases pieces with
  | nil =>
    apply text_of_fault_settle
    simp [settle, waits]
  | cons piece rest =>
    rw [List.foldl_cons]
    apply text_foldl_of_fault
    apply fault_add_of_high waits
    rintro n rfl
    exact other n rest rfl

/-- What is read of pieces is what they stand for. -/
theorem text_foldl (pieces : List Piece) (reversed : List Char) :
    (pieces.foldl add (reading reversed)).text =
      (Piece.text? pieces).elim (.error .surrogate)
        fun text => .ok (String.ofList (reversed.reverse ++ text)) := by
  fun_induction Piece.text? pieces generalizing reversed with
  | case1 => simp [text, settle, reading]
  | case2 c rest ih =>
    have added : (reading reversed).add (.char c) = reading (c :: reversed) := rfl
    rw [List.foldl_cons, added, ih]
    cases Piece.text? rest <;> simp
  | case3 n high m more low ih =>
    -- the second half finds the first and makes one character of both
    rw [List.foldl_cons, List.foldl_cons, add_of_high _ high, add_of_low _ low]
    refine (ih (_ :: reversed)).trans ?_
    cases Piece.text? more <;> simp
  | case4 n high m more notLow =>
    rw [List.foldl_cons, add_of_high _ high]
    apply text_foldl_of_high rfl
    intro m' more' same
    cases same
    exact notLow
  | case5 n rest high other =>
    rw [List.foldl_cons, add_of_high _ high]
    exact text_foldl_of_high rfl fun m more same => absurd same (other m more)
  | case6 n rest notHigh low =>
    rw [List.foldl_cons, add_of_low _ low]
    exact text_foldl_of_fault rfl rest
  | case7 n rest notHigh notLow ih =>
    have added : (reading reversed).add (.unit n) = reading (Char.ofNat n :: reversed) :=
      add_of_plain _ notHigh notLow
    rw [List.foldl_cons, added, ih]
    cases Piece.text? rest <;> simp

/-- A literal stands for the value of its pieces. -/
theorem text_after (pieces : List Piece) : (after pieces).text = Piece.value pieces :=
  text_foldl pieces []

/-- The letters of short escapes are those listed. -/
theorem escaped?_eq_some_iff {l c : Char} : escaped? l = some c ↔ (l, c) ∈ letters := by
  constructor
  · intro known
    unfold escaped? at known
    split at known <;> cases known <;> simp [letters]
  · intro listed
    simp only [letters, List.mem_cons, Prod.mk.injEq, List.not_mem_nil, or_false] at listed
    rcases listed with ⟨rfl, rfl⟩ | ⟨rfl, rfl⟩ | ⟨rfl, rfl⟩ | ⟨rfl, rfl⟩ | ⟨rfl, rfl⟩ | ⟨rfl, rfl⟩ |
      ⟨rfl, rfl⟩ | ⟨rfl, rfl⟩ <;> rfl

end Literal

/-- The beginnings of what stands in a literal, with the literal that each leads to: pieces, and
after them nothing, a backslash, or the first digits of a code unit. -/
inductive InLiteral : Literal → List Char → Prop
  | pieces {pieces : List Piece} {text : List Char} (spelled : Pieces pieces text) :
    InLiteral (.after pieces) text
  | slash {pieces : List Piece} {text : List Char} (spelled : Pieces pieces text) :
    InLiteral { Literal.after pieces with escape := .slash } (text ++ ['\\'])
  | unit {pieces : List Piece} {text ds : List Char} {value : Nat} (spelled : Pieces pieces text)
    (few : ds.length < 4) (number : Hex.number? ds = some value) :
    InLiteral { Literal.after pieces with escape := .unit (4 - ds.length) value }
      (text ++ '\\' :: 'u' :: ds)

/-- Where a literal may end, pieces have been read. -/
theorem InLiteral.exists_pieces {l : Literal} {text : List Char} (inside : InLiteral l text)
    (between : l.escape = .none) : ∃ pieces, Pieces pieces text ∧ l = .after pieces := by
  cases inside with
  | pieces spelled => exact ⟨_, spelled, rfl⟩
  | slash => cases between
  | unit => cases between

/-- A hexadecimal digit more makes sixteen times the number and the digit. -/
theorem number?_concat {ds : List Char} {value d : Nat} {c : Char}
    (number : Hex.number? ds = some value) (digit : Hex.value? c = some d) :
    Hex.number? (ds ++ [c]) = some (16 * value + d) := by
  unfold Hex.number? at number ⊢
  simp [List.foldlM_append, number, digit]

/-- A character that is taken leads from one beginning to another. -/
theorem InLiteral.step {l next : Literal} {text : List Char} {c : Char} (inside : InLiteral l text)
    (open' : l.escape = .none → c ≠ '"') (taken : l.step (some c) = some next) :
    InLiteral next (text ++ [c]) := by
  cases inside with
  | @pieces pieces _ spelled =>
    have between := Literal.escape_after pieces
    unfold Literal.step at taken
    rw [between] at taken
    dsimp only at taken
    split_ifs at taken with slash control
    · obtain rfl := Option.some.inj taken
      exact slash ▸ .slash spelled
    · obtain rfl := Option.some.inj taken
      have added : (Literal.after pieces).push c = .after (pieces ++ [.char c]) :=
        (Literal.after_concat pieces (.char c)).symm
      rw [added]
      exact .pieces (spelled.concat (.plain (open' between) slash (Nat.not_lt.mp control)))
  | @slash pieces text spelled =>
    unfold Literal.step at taken
    dsimp only at taken
    split_ifs at taken with unit
    · obtain rfl := Option.some.inj taken
      subst unit
      have few : ([] : List Char).length < 4 := by decide
      rw [List.append_assoc]
      exact .unit spelled few rfl
    · obtain ⟨d, known, rfl⟩ := Option.map_eq_some_iff.mp taken
      have added : ({ Literal.after pieces with escape := .slash } : Literal).push d =
          .after (pieces ++ [.char d]) :=
        (Literal.add_escape _ _ (.char d)).trans (Literal.after_concat pieces (.char d)).symm
      rw [added, List.append_assoc]
      exact .pieces (spelled.concat (.letter (Literal.escaped?_eq_some_iff.mp known)))
  | @unit pieces text ds value spelled few number =>
    unfold Literal.step at taken
    dsimp only at taken
    obtain ⟨d, digit, taken⟩ := Option.bind_eq_some_iff.mp taken
    have number := number?_concat number digit
    have longer : (ds ++ [c]).length = ds.length + 1 := by simp
    have text_concat : text ++ '\\' :: 'u' :: ds ++ [c] = text ++ '\\' :: 'u' :: (ds ++ [c]) := by
      simp
    rw [text_concat]
    split_ifs at taken with last
    · obtain rfl := Option.some.inj taken
      have added : (Literal.after pieces).pushUnit (16 * value + d) =
          .after (pieces ++ [.unit (16 * value + d)]) :=
        (Literal.after_concat pieces (.unit _)).symm
      rw [Literal.pushUnit_escape, added]
      exact .pieces (spelled.concat (.digits (by omega) number))
    · obtain rfl := Option.some.inj taken
      have owed : 4 - ds.length - 1 = 4 - (ds ++ [c]).length := by omega
      rw [owed]
      exact .unit spelled (by omega) number

/-! ### Literals that are spelled -/

section

variable (stack : List Container) (isKey : Bool)

/-- A reader takes what its literal takes, as long as the closing quote has not come. -/
theorem step_literal {l next : Literal} {c : Char} (open' : l.escape = .none → c ≠ '"')
    (taken : l.step (some c) = some next) :
    Reader.step ⟨stack, .literal isKey l⟩ (some c) = some ⟨stack, .literal isKey next⟩ := by
  have goesOn : ¬(l.escape = .none ∧ some c = some '"') := by
    rintro ⟨between, same⟩
    exact open' between (Option.some.inj same)
  unfold Reader.step
  dsimp only
  rw [if_neg goesOn, taken]
  rfl

/-- The digits of a code unit that are still to come are read. -/
theorem run_unit (l : Literal) {ds : List Char} {owed value n : Nat}
    (left : ds.length = owed) (some_left : owed ≠ 0)
    (number : ds.foldlM (fun n c => (Hex.value? c).map (16 * n + ·)) value = some n) :
    run ⟨stack, .literal isKey { l with escape := .unit owed value }⟩ ds =
      some ⟨stack, .literal isKey (l.pushUnit n)⟩ := by
  induction ds generalizing owed value with
  | nil => exact absurd left.symm some_left
  | cons c ds ih =>
    rw [List.foldlM_cons] at number
    obtain ⟨_, first, number⟩ := Option.bind_eq_some_iff.mp number
    obtain ⟨d, digit, rfl⟩ := Option.map_eq_some_iff.mp first
    rw [List.length_cons] at left
    have next : ({ l with escape := .unit owed value } : Literal).step (some c) =
        if owed ≤ 1 then
          some (({ l with escape := .unit owed value } : Literal).pushUnit (16 * value + d))
        else some { l with escape := .unit (owed - 1) (16 * value + d) } := by
      unfold Literal.step
      simp only [digit]
      split_ifs <;> rfl
    cases ds with
    | nil =>
      obtain rfl := Option.some.inj number
      rw [if_pos (by simp at left; omega)] at next
      rw [run_cons, step_literal stack isKey (by simp) next, Option.bind_some, run_nil,
        Literal.pushUnit_escape]
    | cons c' ds =>
      rw [List.length_cons] at left
      rw [if_neg (by omega)] at next
      rw [run_cons, step_literal stack isKey (by simp) next, Option.bind_some]
      exact ih (by simp; omega) (by omega) number

/-- A piece is added to the literal. -/
theorem run_piece {piece : Piece} {text : List Char} (spelled : piece.Spells text) {l : Literal}
    (between : l.escape = .none) :
    run ⟨stack, .literal isKey l⟩ text = some ⟨stack, .literal isKey (l.add piece)⟩ := by
  cases spelled with
  | @plain c quote backslash printable =>
    have next : l.step (some c) = some (l.push c) := by
      simp [Literal.step, between, backslash, Nat.not_lt.mpr printable]
    rw [run_cons, step_literal stack isKey (fun _ => quote) next]
    rfl
  | @letter letter c listed =>
    have noUnit : letter ≠ 'u' := by
      rintro rfl
      simp [letters] at listed
    have slash : l.step (some '\\') = some { l with escape := .slash } := by
      simp [Literal.step, between]
    have next : ({ l with escape := .slash } : Literal).step (some letter) =
        some (l.add (.char c)) := by
      rw [← l.add_escape .slash]
      simp [Literal.step, noUnit, Literal.escaped?_eq_some_iff.mpr listed, Literal.add]
    rw [run_cons, step_literal stack isKey (by simp) slash, Option.bind_some, run_cons,
      step_literal stack isKey (by simp) next]
    rfl
  | @digits ds n four value =>
    have slash : l.step (some '\\') = some { l with escape := .slash } := by
      simp [Literal.step, between]
    have next : ({ l with escape := .slash } : Literal).step (some 'u') =
        some { l with escape := .unit 4 0 } := rfl
    rw [run_cons, step_literal stack isKey (by simp) slash, Option.bind_some, run_cons,
      step_literal stack isKey (by simp) next, Option.bind_some]
    exact run_unit stack isKey l four (by decide) value

/-- Pieces are read one after the other. -/
theorem run_pieces {pieces : List Piece} {text : List Char} (spelled : Pieces pieces text) :
    run ⟨stack, .literal isKey {}⟩ text = some ⟨stack, .literal isKey (.after pieces)⟩ := by
  induction spelled with
  | nil => rfl
  | @concat pieces _ _ piece _ spelled ih =>
    rw [run_append_of_eq ih, run_piece stack isKey spelled (Literal.escape_after pieces),
      Literal.after_concat]

end

end Json.Reader

end Parley
