import Mathlib.Data.List.GetD
import Mathlib.Data.List.Nodup
import Parley.Text.Base64

/-!
# Base64 there and back

Reading inverts writing, and nothing but what writing gives is read: an unpadded text stands for a
byte string exactly when it is that byte string's encoding (`decode?_eq_some_iff`). So every byte
string has one text, and no bit of a text is without meaning.
-/

namespace Parley.Base64

section Alphabet

variable {alphabet : List Char}

/-! ### Digits -/

/-- Only the last six bits of a value make its digit. -/
theorem digit_mod (value : Nat) : digit alphabet (value % 64) = digit alphabet value := by
  simp [digit]

/-- The digit of a value is read as its last six bits. -/
theorem value?_digit (full : alphabet.length = 64) (distinct : alphabet.Nodup) (value : Nat) :
    value? alphabet (digit alphabet value) = some (value % 64) := by
  have inside : value % 64 < alphabet.length := by omega
  rw [value?, digit, List.getD_eq_getElem _ _ inside, List.idxOf?_eq_some_iff]
  refine ⟨inside, by simp, ?_⟩
  intro j earlier
  have apart : alphabet[j] ≠ alphabet[value % 64] := fun same =>
    Nat.ne_of_lt earlier (distinct.getElem_inj_iff.mp same)
  simpa using apart

/-- A character is read as the value that it is the digit of. -/
theorem value?_eq_some_iff (full : alphabet.length = 64) (distinct : alphabet.Nodup)
    {c : Char} {n : Nat} :
    value? alphabet c = some n ↔ n < 64 ∧ digit alphabet n = c := by
  constructor
  · intro found
    obtain ⟨inside, same, -⟩ := List.idxOf?_eq_some_iff.mp found
    have small : n < 64 := full ▸ inside
    refine ⟨small, ?_⟩
    rw [digit, Nat.mod_eq_of_lt small, List.getD_eq_getElem _ _ inside]
    simpa using same
  · rintro ⟨small, rfl⟩
    rw [value?_digit full distinct, Nat.mod_eq_of_lt small]

/-- Every digit is in the alphabet. -/
theorem digit_mem (full : alphabet.length = 64) (value : Nat) :
    digit alphabet value ∈ alphabet := by
  have inside : value % 64 < alphabet.length := by omega
  rw [digit, List.getD_eq_getElem _ _ inside]
  exact List.getElem_mem inside

/-- A digit depends on the six lowest bits only. -/
theorem digit_congr {m n : Nat} (same : m % 64 = n % 64) :
    digit alphabet m = digit alphabet n := by
  rw [← digit_mod m, same, digit_mod]

/-! ### Groups of digits -/

/-- Twelve bits in two digits. -/
theorem two_digits {n : Nat} (small : n < 4096) : n / 64 % 64 * 64 + n % 64 = n := by
  omega

/-- Eighteen bits in three digits. -/
theorem three_digits {n : Nat} (small : n < 262144) :
    (n / 4096 % 64 * 64 + n / 64 % 64) * 64 + n % 64 = n := by
  omega

/-- Twenty-four bits in four digits. -/
theorem four_digits {n : Nat} (small : n < 16777216) :
    ((n / 262144 % 64 * 64 + n / 4096 % 64) * 64 + n / 64 % 64) * 64 + n % 64 = n := by
  omega

/-! ### Byte strings -/

/-- What is written is read back, in any alphabet of 64 different characters. -/
theorem decode?_encode (full : alphabet.length = 64) (distinct : alphabet.Nodup)
    (bytes : List UInt8) : decode? alphabet (encode alphabet bytes) = some bytes := by
  have read := value?_digit full distinct
  induction bytes using encode.induct with
  | case1 => rfl
  | case2 a =>
    have := a.toNat_lt
    have group := two_digits (n := a.toNat * 16) (by omega)
    simp [encode, decode?, read, group]
  | case3 a b =>
    have := a.toNat_lt
    have := b.toNat_lt
    have group := three_digits (n := (a.toNat * 256 + b.toNat) * 4) (by omega)
    have first : (a.toNat * 256 + b.toNat) * 4 / 1024 = a.toNat := by omega
    have second : UInt8.ofNat (a.toNat * 256 + b.toNat) = b := by
      rw [← UInt8.toNat_inj]; simp
    simp [encode, decode?, read, group, first, second]
  | case4 a b c rest ih =>
    have := a.toNat_lt
    have := b.toNat_lt
    have := c.toNat_lt
    have group := four_digits (n := (a.toNat * 256 + b.toNat) * 256 + c.toNat) (by omega)
    have first : ((a.toNat * 256 + b.toNat) * 256 + c.toNat) / 65536 = a.toNat := by omega
    have second : UInt8.ofNat (((a.toNat * 256 + b.toNat) * 256 + c.toNat) / 256) = b := by
      rw [← UInt8.toNat_inj]; simp; omega
    have third : UInt8.ofNat ((a.toNat * 256 + b.toNat) * 256 + c.toNat) = c := by
      rw [← UInt8.toNat_inj]; simp
    simp only [encode, decode?, read, Option.bind_eq_bind, Option.bind_some, Option.pure_def, group,
      first, second, third, ih, UInt8.ofNat_toNat]

/-- Only what is written for some bytes is read as these bytes: bits to spare have to be zero. -/
theorem eq_encode_of_decode? (full : alphabet.length = 64) (distinct : alphabet.Nodup)
    {digits : List Char} {bytes : List UInt8} (read : decode? alphabet digits = some bytes) :
    digits = encode alphabet bytes := by
  have value := @value?_eq_some_iff _ full distinct
  induction digits using decode?.induct generalizing bytes with
  | case1 =>
    obtain rfl : [] = bytes := by simpa [decode?] using read
    rfl
  | case2 => simp [decode?] at read
  | case3 a b =>
    simp only [decode?, Option.bind_eq_bind, Option.bind_eq_some_iff] at read
    obtain ⟨u, hu, v, hv, read⟩ := read
    obtain ⟨smallU, rfl⟩ := value.mp hu
    obtain ⟨smallV, rfl⟩ := value.mp hv
    -- two digits are four bits more than a byte, and these have to be zero
    split at read
    case isFalse => cases read
    obtain rfl := Option.some.inj read
    simp only [encode]
    rw [UInt8.toNat_ofNat']
    congr 1
    · apply digit_congr; omega
    · congr 1; apply digit_congr; omega
  | case4 a b c =>
    simp only [decode?, Option.bind_eq_bind, Option.bind_eq_some_iff] at read
    obtain ⟨u, hu, v, hv, w, hw, read⟩ := read
    obtain ⟨smallU, rfl⟩ := value.mp hu
    obtain ⟨smallV, rfl⟩ := value.mp hv
    obtain ⟨smallW, rfl⟩ := value.mp hw
    -- three digits are two bits more than two bytes
    split at read
    case isFalse => cases read
    obtain rfl := Option.some.inj read
    simp only [encode]
    rw [UInt8.toNat_ofNat', UInt8.toNat_ofNat']
    congr 1
    · apply digit_congr; omega
    congr 1
    · apply digit_congr; omega
    congr 1
    · apply digit_congr; omega
  | case5 a b c d rest ih =>
    simp only [decode?, Option.bind_eq_bind, Option.bind_eq_some_iff] at read
    obtain ⟨u, hu, v, hv, w, hw, x, hx, more, hmore, read⟩ := read
    obtain ⟨smallU, rfl⟩ := value.mp hu
    obtain ⟨smallV, rfl⟩ := value.mp hv
    obtain ⟨smallW, rfl⟩ := value.mp hw
    obtain ⟨smallX, rfl⟩ := value.mp hx
    obtain rfl := Option.some.inj read
    simp only [encode]
    rw [← ih hmore, UInt8.toNat_ofNat', UInt8.toNat_ofNat', UInt8.toNat_ofNat']
    congr 1
    · apply digit_congr; omega
    congr 1
    · apply digit_congr; omega
    congr 1
    · apply digit_congr; omega
    congr 1
    · apply digit_congr; omega

/-- A text is read as a byte string exactly when it is what the byte string is written as. -/
theorem decode?_eq_some_iff (full : alphabet.length = 64) (distinct : alphabet.Nodup)
    {digits : List Char} {bytes : List UInt8} :
    decode? alphabet digits = some bytes ↔ digits = encode alphabet bytes := by
  constructor
  · exact eq_encode_of_decode? full distinct
  · rintro rfl
    exact decode?_encode full distinct bytes

/-- Only characters of the alphabet are written. -/
theorem mem_of_mem_encode (full : alphabet.length = 64) {bytes : List UInt8} {c : Char}
    (inside : c ∈ encode alphabet bytes) : c ∈ alphabet := by
  have anyDigit := digit_mem full
  induction bytes using encode.induct with
  | case1 => simp [encode] at inside
  | case2 a =>
    simp only [encode, List.mem_cons, List.not_mem_nil, or_false] at inside
    rcases inside with rfl | rfl <;> exact anyDigit _
  | case3 a b =>
    simp only [encode, List.mem_cons, List.not_mem_nil, or_false] at inside
    rcases inside with rfl | rfl | rfl <;> exact anyDigit _
  | case4 a b c rest ih =>
    simp only [encode, List.mem_cons] at inside
    rcases inside with rfl | rfl | rfl | rfl | later
    case inr.inr.inr.inr => exact ih later
    all_goals exact anyDigit _

end Alphabet

/-! ### The URL-safe alphabet -/

/-- The alphabet for addresses has 64 characters. -/
theorem length_urlAlphabet : urlAlphabet.length = 64 := by decide

/-- The characters of the alphabet for addresses are different. -/
theorem nodup_urlAlphabet : urlAlphabet.Nodup := by decide

/-- What is written for addresses is read back. -/
@[simp]
theorem urlDecode?_urlEncode (bytes : List UInt8) : urlDecode? (urlEncode bytes) = some bytes :=
  decode?_encode length_urlAlphabet nodup_urlAlphabet bytes

/-- Bytes are read off their one written form. -/
theorem urlDecode?_eq_some_iff {digits : List Char} {bytes : List UInt8} :
    urlDecode? digits = some bytes ↔ digits = urlEncode bytes :=
  decode?_eq_some_iff length_urlAlphabet nodup_urlAlphabet

/-- Different bytes are written differently. -/
theorem urlEncode_injective {a b : List UInt8} (same : urlEncode a = urlEncode b) : a = b := by
  have read := urlDecode?_urlEncode a
  rw [same, urlDecode?_urlEncode] at read
  exact (Option.some.inj read).symm

/-- What is written for addresses has no dot. -/
theorem dot_notMem_urlEncode (bytes : List UInt8) : '.' ∉ urlEncode bytes := by
  intro inside
  have digit := mem_of_mem_encode length_urlAlphabet inside
  revert digit
  decide

end Parley.Base64
