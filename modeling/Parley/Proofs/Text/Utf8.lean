import Mathlib.Tactic.SplitIfs
import Parley.Text.Utf8

/-!
# UTF-8 read back

What `Utf8.encode` writes, `Utf8.symbols` reads as the characters it was written from, with no
undecodable run among them (`symbols_encode`).

The bytes of one character take the reader from between characters to between characters
(`scan_utf8EncodeChar`). By the number of its bytes, the first byte starts a character that allows
exactly the bytes that follow: that is where the shortest form and the surrogates come in.
-/

namespace Parley.Utf8

/-! ### The reader in pieces -/

/-- Nothing is found in no bytes. -/
@[simp]
theorem scan_nil (pending : Option Pending) : scan pending [] = ([], pending) := rfl

/-- The symbols read before a place do not change what is read after it. -/
theorem foldl_accept (pending : Option Pending) (before : List (Option Char))
    (bytes : List UInt8) :
    bytes.foldl
        (fun (symbols, pending) b =>
          let (more, next) := accept pending b
          (more.reverse ++ symbols, next))
        (before, pending)
      = ((scan pending bytes).1 ++ before, (scan pending bytes).2) := by
  induction bytes generalizing pending before with
  | nil => simp
  | cons b rest ih =>
    have alone : scan pending (b :: rest) = _ :=
      ih (accept pending b).2 ((accept pending b).1.reverse ++ [])
    rw [List.foldl_cons, ih, alone]
    simp

/-- The first byte is taken before the others. -/
theorem scan_cons (pending : Option Pending) (b : UInt8) (rest : List UInt8) :
    scan pending (b :: rest)
      = ((scan (accept pending b).2 rest).1 ++ (accept pending b).1.reverse,
          (scan (accept pending b).2 rest).2) := by
  rw [scan, List.foldl_cons, foldl_accept]
  simp

/-- Two byte strings are scanned one after the other. -/
theorem scan_append (pending : Option Pending) (xs ys : List UInt8) :
    scan pending (xs ++ ys)
      = ((scan (scan pending xs).2 ys).1 ++ (scan pending xs).1,
          (scan (scan pending xs).2 ys).2) := by
  induction xs generalizing pending with
  | nil => simp
  | cons b rest ih => simp [scan_cons, ih]

/-! ### One character -/

/-- Every byte of a character but the first. -/
theorem toNat_tail (v : Nat) : (UInt8.ofNat (v % 64 + 128)).toNat = v % 64 + 128 :=
  UInt8.toNat_ofNat_of_lt' (show _ < 256 by omega)

/-- A byte of ASCII is a character. -/
theorem accept_single {b : UInt8} (small : b.toNat < 0x80) :
    accept none b = ([some (Char.ofNat b.toNat)], none) := by
  simp [accept, begin, small]

/-- A leading byte begins a character. -/
theorem accept_lead {b : UInt8} {p : Pending} (large : 0x80 ≤ b.toNat)
    (lead : Pending.ofLead? b.toNat = some p) : accept none b = ([], some p) := by
  simp [accept, begin, lead, Nat.not_lt.mpr large]

/-- A byte that continues a character leaves it one byte short of what it owed. -/
theorem accept_tail {b : UInt8} {bits owed low high : Nat}
    (allowed : low ≤ b.toNat ∧ b.toNat ≤ high) :
    accept (some ⟨bits, owed + 2, low, high⟩) b
      = ([], some ⟨64 * bits + (b.toNat - 0x80), owed + 1, 0x80, 0xBF⟩) := by
  simp [accept, allowed]

/-- The last byte that is owed ends a character. -/
theorem accept_last {b : UInt8} {bits low high : Nat} (allowed : low ≤ b.toNat ∧ b.toNat ≤ high) :
    accept (some ⟨bits, 1, low, high⟩) b
      = ([some (Char.ofNat (64 * bits + (b.toNat - 0x80)))], none) := by
  simp [accept, allowed]

/-- The leading byte of a character of two bytes. -/
theorem ofLead?_two {v : Nat} (large : 0x80 ≤ v) (small : v < 0x800) :
    Pending.ofLead? (v / 64 % 32 + 192) = some ⟨v / 64, 1, 0x80, 0xBF⟩ := by
  have range : 0xC2 ≤ v / 64 % 32 + 192 ∧ v / 64 % 32 + 192 ≤ 0xDF := by omega
  have bits : v / 64 % 32 + 192 - 0xC0 = v / 64 := by omega
  simp [Pending.ofLead?, range, bits]

/-- The second of three bytes is in the range that the first allows, since the character is no
surrogate and needs three bytes. -/
theorem ofLead?_three {v : Nat} (large : 0x800 ≤ v) (small : v < 0x10000)
    (scalar : v < 0xD800 ∨ 0xDFFF < v) :
    ∃ low high, Pending.ofLead? (v / 4096 % 16 + 224) = some ⟨v / 4096, 2, low, high⟩
      ∧ low ≤ v / 64 % 64 + 128 ∧ v / 64 % 64 + 128 ≤ high := by
  unfold Pending.ofLead?
  have bits : v / 4096 % 16 + 224 - 0xE0 = v / 4096 := by omega
  split_ifs
  · omega
  · exact ⟨0xA0, 0xBF, by simp; omega, by omega, by omega⟩
  · exact ⟨0x80, 0x9F, by simp [bits], by omega, by omega⟩
  · exact ⟨0x80, 0xBF, by simp [bits], by omega, by omega⟩
  all_goals omega

/-- The second of four bytes is in the range that the first allows, since the character needs four
bytes and is none beyond U+10FFFF. -/
theorem ofLead?_four {v : Nat} (large : 0x10000 ≤ v) (small : v < 0x110000) :
    ∃ low high, Pending.ofLead? (v / 262144 % 8 + 240) = some ⟨v / 262144, 3, low, high⟩
      ∧ low ≤ v / 4096 % 64 + 128 ∧ v / 4096 % 64 + 128 ≤ high := by
  unfold Pending.ofLead?
  have bits : v / 262144 % 8 + 240 - 0xF0 = v / 262144 := by omega
  split_ifs
  iterate 4 omega
  · exact ⟨0x90, 0xBF, by simp; omega, by omega, by omega⟩
  · exact ⟨0x80, 0xBF, by simp [bits], by omega, by omega⟩
  · exact ⟨0x80, 0x8F, by simp; omega, by omega, by omega⟩
  all_goals omega

/-- The bytes of a character are found to be the character. -/
theorem scan_utf8EncodeChar (c : Char) :
    scan none (String.utf8EncodeChar c) = ([some c], none) := by
  have scalar : c.val.toNat < 0xD800 ∨ 0xDFFF < c.val.toNat ∧ c.val.toNat < 0x110000 := c.valid
  have whole : Char.ofNat c.val.toNat = c := Char.ofNat_toNat c
  unfold String.utf8EncodeChar
  generalize c.val.toNat = v at scalar whole ⊢
  dsimp only
  split_ifs with one two three
  · have byte : (UInt8.ofNat v).toNat = v := UInt8.toNat_ofNat_of_lt' (show _ < 256 by omega)
    rw [scan_cons, accept_single (by omega)]
    simp [byte, whole]
  · have lead : (UInt8.ofNat (v / 64 % 32 + 192)).toNat = v / 64 % 32 + 192 := by simp; omega
    have tail := toNat_tail v
    have bits : 64 * (v / 64) + (v % 64 + 128 - 0x80) = v := by omega
    rw [scan_cons, accept_lead (by omega) (lead ▸ ofLead?_two (by omega) (by omega)), scan_cons,
      accept_last (by omega), tail, bits, whole]
    simp
  · have lead : (UInt8.ofNat (v / 4096 % 16 + 224)).toNat = v / 4096 % 16 + 224 := by simp; omega
    have second := toNat_tail (v / 64)
    have third := toNat_tail v
    obtain ⟨low, high, started, allowed⟩ := ofLead?_three (by omega) (by omega)
      (scalar.imp id And.left)
    have bits :
        64 * (64 * (v / 4096) + (v / 64 % 64 + 128 - 0x80)) + (v % 64 + 128 - 0x80) = v := by
      omega
    rw [scan_cons, accept_lead (by omega) (lead ▸ started), scan_cons,
      accept_tail (second.symm ▸ allowed), scan_cons, accept_last (by omega), second, third, bits,
      whole]
    simp
  · have lead : (UInt8.ofNat (v / 262144 % 8 + 240)).toNat = v / 262144 % 8 + 240 := by simp; omega
    have second := toNat_tail (v / 4096)
    have third := toNat_tail (v / 64)
    have fourth := toNat_tail v
    obtain ⟨low, high, started, allowed⟩ := ofLead?_four (v := v) (by omega) (by omega)
    have bits : 64 * (64 * (64 * (v / 262144) + (v / 4096 % 64 + 128 - 0x80))
        + (v / 64 % 64 + 128 - 0x80)) + (v % 64 + 128 - 0x80) = v := by
      omega
    rw [scan_cons, accept_lead (by omega) (lead ▸ started), scan_cons,
      accept_tail (second.symm ▸ allowed), scan_cons, accept_tail (by omega), scan_cons,
      accept_last (by omega), second, third, fourth, bits, whole]
    simp

/-! ### Texts -/

/-- The bytes of a text are found to be its characters. -/
theorem scan_encode (text : List Char) :
    scan none (encode text) = ((text.map some).reverse, none) := by
  induction text with
  | nil => rfl
  | cons c rest ih =>
    rw [encode, List.flatMap_cons, scan_append, scan_utf8EncodeChar]
    rw [encode] at ih
    simp [ih]

/-- A text is read back as its characters. -/
@[simp]
theorem symbols_encode (text : List Char) : symbols (encode text) = text.map some := by
  simp [symbols, scan_encode]

/-! ### ASCII -/

/-- An ASCII character is one byte. -/
theorem utf8EncodeChar_ascii {c : Char} (ascii : c.toNat < 0x80) :
    String.utf8EncodeChar c = [UInt8.ofNat c.toNat] :=
  if_pos (Nat.le_of_lt_succ ascii)

/-- The bytes of any other character are none of ASCII. -/
theorem le_of_mem_utf8EncodeChar {c : Char} {b : UInt8} (large : 0x80 ≤ c.toNat)
    (inside : b ∈ String.utf8EncodeChar c) : 0x80 ≤ b.toNat := by
  have scalar : c.toNat < 0x110000 := by
    have valid : c.toNat < 0xD800 ∨ 0xDFFF < c.toNat ∧ c.toNat < 0x110000 := c.valid
    omega
  change b ∈ (if c.toNat ≤ 127 then _ else _) at inside
  rw [if_neg (by omega)] at inside
  change b ∈ (if c.toNat ≤ 2047 then _ else if c.toNat ≤ 65535 then _ else _) at inside
  generalize c.toNat = v at large scalar inside
  have byte {n : Nat} (range : 0x80 ≤ n ∧ n < 256) : 0x80 ≤ (UInt8.ofNat n).toNat := by
    rw [UInt8.toNat_ofNat_of_lt' range.2]
    exact range.1
  split_ifs at inside <;> simp only [List.mem_cons, List.not_mem_nil, or_false] at inside
  · rcases inside with rfl | rfl <;> exact byte (by omega)
  · rcases inside with rfl | rfl | rfl <;> exact byte (by omega)
  · rcases inside with rfl | rfl | rfl | rfl <;> exact byte (by omega)

/-- Two texts are encoded one after the other. -/
theorem encode_append (xs ys : List Char) : encode (xs ++ ys) = encode xs ++ encode ys :=
  List.flatMap_append

/-- A character of ASCII is encoded as the byte of its code. -/
theorem encode_cons_ascii {c : Char} (ascii : c.toNat < 0x80) (text : List Char) :
    encode (c :: text) = UInt8.ofNat c.toNat :: encode text := by
  rw [encode, List.flatMap_cons, utf8EncodeChar_ascii ascii]
  rfl

/-- A text of ASCII is encoded as its codes. -/
theorem encode_ascii {text : List Char} (ascii : ∀ c ∈ text, c.toNat < 0x80) :
    encode text = text.map fun c => UInt8.ofNat c.toNat := by
  induction text with
  | nil => rfl
  | cons c rest ih =>
    obtain ⟨first, others⟩ := List.forall_mem_cons.mp ascii
    rw [encode_cons_ascii first, ih others, List.map_cons]

/-- The code of a character of ASCII is the number that it was made from. -/
theorem toNat_char {n : Nat} (ascii : n < 0x80) : (Char.ofNat n).toNat = n := by
  have valid : n.isValidChar := .inl (by omega)
  rw [Char.ofNat, dif_pos valid]
  rfl

/-- Only the empty text is encoded as no bytes. -/
theorem encode_eq_nil {text : List Char} : encode text = [] ↔ text = [] := by
  cases text with
  | nil => exact iff_of_true rfl rfl
  | cons c rest =>
    have some_byte := String.length_utf8EncodeChar c
    have positive := Char.utf8Size_pos c
    refine ⟨fun nothing => ?_, fun nothing => by cases nothing⟩
    rw [encode, List.flatMap_cons, List.append_eq_nil_iff] at nothing
    rw [nothing.1, List.length_nil] at some_byte
    omega

/-- A byte of ASCII stands in the bytes of a text where its character stands in the text. -/
theorem mem_of_mem_encode {text : List Char} {c : Char} (ascii : c.toNat < 0x80)
    (inside : UInt8.ofNat c.toNat ∈ encode text) : c ∈ text := by
  obtain ⟨d, hd, from_d⟩ := List.mem_flatMap.mp inside
  have code : (UInt8.ofNat c.toNat).toNat = c.toNat :=
    UInt8.toNat_ofNat_of_lt' (show _ < 256 by omega)
  by_cases other : 0x80 ≤ d.toNat
  · have := le_of_mem_utf8EncodeChar other from_d
    omega
  · rw [utf8EncodeChar_ascii (by omega), List.mem_singleton] at from_d
    have same : c.toNat = d.toNat := by
      rw [← code, from_d, UInt8.toNat_ofNat_of_lt' (show _ < 256 by omega)]
    rwa [Char.toNat_inj.mp same]

/-! ### Whole texts -/

/-- The bytes that are read as a text are its bytes. -/
theorem decode?_eq_some_iff {bytes : List UInt8} {text : String} :
    decode? bytes = some text ↔ bytes = encode text.toList := by
  have listed : ByteArray.mk bytes.toArray = bytes.toByteArray :=
    ByteArray.ext List.data_toByteArray.symm
  have whole : bytes = encode text.toList ↔ text.toByteArray = bytes.toByteArray := by
    rw [← String.utf8Encode_toList, List.utf8Encode, List.toByteArray_inj]
    exact eq_comm
  rw [whole, decode?, listed, String.fromUTF8?]
  split_ifs with valid
  · rw [Option.some_inj, ← String.toByteArray_inj]
    exact eq_comm
  · refine iff_of_false nofun fun same => valid ?_
    rw [← same]
    exact text.isValidUTF8

end Parley.Utf8
