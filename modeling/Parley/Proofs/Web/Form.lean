import Parley.Proofs.Text.Digits
import Parley.Proofs.Text.Separator
import Parley.Proofs.Text.Utf8
import Parley.Web.Form

/-!
# Form encoding read back

`Form.Spells` says which written forms a byte string has: a plain character for itself, `+` for a
space, and an escape with digits of either case for any byte. `Form.encode` writes one of them.

`Form.decode` reads every written form of a text as the text (`decode_of_spells`), a name and a
value with `=` between them as a field (`field_of_spells`), and fields joined by `&` as these fields
(`fields_intercalate`).
-/

namespace Parley.Form

/-- Whether a character stands for itself in a written name or value: those of ASCII do that have no
other meaning there. -/
def isPlain (c : Char) : Bool :=
  decide (c.toNat < 0x80 ∧ c ∉ ['%', '+', '&', '=', '#'])

/-- The written forms of a byte string. -/
inductive Spells : List Char → List UInt8 → Prop
  | nil : Spells [] []
  | plain {c : Char} {text : List Char} {bytes : List UInt8} (self : isPlain c = true) :
      Spells text bytes → Spells (c :: text) (UInt8.ofNat c.toNat :: bytes)
  | space {text : List Char} {bytes : List UInt8} :
      Spells text bytes → Spells ('+' :: text) (0x20 :: bytes)
  | escape {high low : Char} {a b : Nat} {text : List Char} {bytes : List UInt8}
      (first : Hex.value? high = some a) (second : Hex.value? low = some b) :
      Spells text bytes → Spells ('%' :: high :: low :: text) (UInt8.ofNat (16 * a + b) :: bytes)

/-! ### Which characters a written form has -/

/-- A character stands for itself if it is of ASCII and none of the five signs. -/
theorem isPlain_iff {c : Char} :
    isPlain c = true ↔ c.toNat < 0x80 ∧ c ∉ ['%', '+', '&', '=', '#'] :=
  decide_eq_true_iff

/-- The digits of an escape are plain characters. -/
theorem isPlain_of_digit {c : Char} {v : Nat} (digit : Hex.value? c = some v) :
    isPlain c = true := by
  rw [isPlain_iff]
  constructor
  · unfold Hex.value? at digit
    simp only [Char.le_def, UInt32.le_iff_toNat_le, Char.toNat_val, Char.reduceToNat] at digit
    split_ifs at digit <;> omega
  · intro special
    have no_digit : ∀ d ∈ ['%', '+', '&', '=', '#'], (Hex.value? d).isNone = true :=
      List.all_eq_true.mp (by decide)
    have nothing := no_digit c special
    rw [digit] at nothing
    cases nothing

/-- A written form has plain characters and the two signs of escapes. -/
theorem Spells.isPlain_or {text : List Char} {bytes : List UInt8} (spells : Spells text bytes) :
    ∀ c ∈ text, isPlain c = true ∨ c = '%' ∨ c = '+' := by
  induction spells with
  | nil => exact List.forall_mem_nil _
  | plain self _ ih => exact List.forall_mem_cons.mpr ⟨.inl self, ih⟩
  | space _ ih => exact List.forall_mem_cons.mpr ⟨.inr (.inr rfl), ih⟩
  | escape first second _ ih =>
    have digits := List.forall_mem_cons.mpr
      ⟨.inl (isPlain_of_digit first), List.forall_mem_cons.mpr ⟨.inl (isPlain_of_digit second), ih⟩⟩
    exact List.forall_mem_cons.mpr ⟨.inr (.inl rfl), digits⟩

/-- Fields and their names and values can be told apart, since no written form has the characters
between them. -/
theorem Spells.not_mem {text : List Char} {bytes : List UInt8} (spells : Spells text bytes)
    {c : Char} (reserved : c ∈ ['&', '=', '#']) : c ∉ text := by
  intro inside
  rcases spells.isPlain_or c inside with plain | rfl | rfl
  · exact (isPlain_iff.mp plain).2 (List.mem_cons_of_mem _ (List.mem_cons_of_mem _ reserved))
  · exact absurd reserved (by decide)
  · exact absurd reserved (by decide)

/-! ### Reading a name or a value -/

/-- A byte other than the percent sign stands for itself. -/
theorem unescape_cons {b : UInt8} (plain : b ≠ percent) (rest : List UInt8) :
    unescape (b :: rest) = b :: unescape rest := by
  have no_escape : ∀ high low, escaped? b high low = none := fun _ _ => if_neg plain
  match rest with
  | [] => rfl
  | [_] => rfl
  | _ :: _ :: _ => rw [unescape, no_escape]

/-- An escape with two hexadecimal digits is their byte. -/
theorem escaped?_digits {high low : Char} {a b : Nat} (first : Hex.value? high = some a)
    (second : Hex.value? low = some b) :
    escaped? percent (UInt8.ofNat high.toNat) (UInt8.ofNat low.toNat)
      = some (UInt8.ofNat (16 * a + b)) := by
  have back : ∀ {c : Char} {v : Nat}, Hex.value? c = some v →
      Char.ofNat (UInt8.ofNat c.toNat).toNat = c := by
    intro c v digit
    have ascii := (isPlain_iff.mp (isPlain_of_digit digit)).1
    rw [UInt8.toNat_ofNat_of_lt' (show _ < 256 by omega), Char.ofNat_toNat]
  rw [escaped?, if_pos rfl, back first, back second]
  simp [Hex.number?, first, second]

/-- A plain character is neither a plus nor a percent sign. -/
theorem plusAsSpace_plain {c : Char} (plain : isPlain c = true) :
    plusAsSpace (UInt8.ofNat c.toNat) = UInt8.ofNat c.toNat ∧ UInt8.ofNat c.toNat ≠ percent := by
  obtain ⟨ascii, other⟩ := isPlain_iff.mp plain
  have ne : ∀ d : Char, d.toNat < 0x80 → c ≠ d → UInt8.ofNat c.toNat ≠ UInt8.ofNat d.toNat := by
    intro d small differ same
    have codes := congrArg UInt8.toNat same
    rw [UInt8.toNat_ofNat_of_lt' (show _ < 256 by omega),
      UInt8.toNat_ofNat_of_lt' (show _ < 256 by omega)] at codes
    exact differ (Char.toNat_inj.mp codes)
  refine ⟨if_neg (ne '+' (by decide) ?_), ne '%' (by decide) ?_⟩
  · rintro rfl
    exact other (by decide)
  · rintro rfl
    exact other (by decide)

/-- Every written form of bytes is read as these bytes. -/
theorem unescape_of_spells {text : List Char} {bytes : List UInt8} (spells : Spells text bytes) :
    unescape ((Utf8.encode text).map plusAsSpace) = bytes := by
  induction spells with
  | nil => rfl
  | plain self _ ih =>
    obtain ⟨kept, no_escape⟩ := plusAsSpace_plain self
    rw [Utf8.encode_cons_ascii (isPlain_iff.mp self).1, List.map_cons, kept,
      unescape_cons no_escape, ih]
  | space _ ih =>
    rw [Utf8.encode_cons_ascii (by decide), List.map_cons]
    change unescape (0x20 :: _) = _
    rw [unescape_cons (by decide), ih]
  | escape first second _ ih =>
    have high := isPlain_of_digit first
    have low := isPlain_of_digit second
    rw [Utf8.encode_cons_ascii (by decide), Utf8.encode_cons_ascii (isPlain_iff.mp high).1,
      Utf8.encode_cons_ascii (isPlain_iff.mp low).1, List.map_cons, List.map_cons, List.map_cons,
      (plusAsSpace_plain high).1, (plusAsSpace_plain low).1]
    change unescape (percent :: _ :: _ :: _) = _
    rw [unescape, escaped?_digits first second, ih]

/-- Every written form of a text is read as the text. -/
theorem decode_of_spells {text : List Char} {s : String}
    (spells : Spells text (Utf8.encode s.toList)) : decode (Utf8.encode text) = s := by
  have read : Utf8.lossy (Utf8.encode s.toList) = s.toList := by
    simp [Utf8.lossy]
  rw [decode, unescape_of_spells spells, read, String.ofList_toList]

/-- Plain characters are their own written form. -/
theorem spells_plain {text : List Char} (plain : ∀ c ∈ text, isPlain c = true) :
    Spells text (Utf8.encode text) := by
  induction text with
  | nil => exact .nil
  | cons c rest ih =>
    obtain ⟨self, others⟩ := List.forall_mem_cons.mp plain
    rw [Utf8.encode_cons_ascii (isPlain_iff.mp self).1]
    exact .plain self (ih others)

/-- A text with every byte escaped is one of its written forms. -/
theorem spells_encode (s : String) : Spells (encode s) (Utf8.encode s.toList) := by
  unfold encode
  induction Utf8.encode s.toList with
  | nil => exact .nil
  | cons b rest ih =>
    have small := b.toNat_lt
    have halves : UInt8.ofNat (16 * (b.toNat / 16) + b.toNat % 16) = b := by
      rw [Nat.div_add_mod, UInt8.ofNat_toNat]
    have escaped := Spells.escape (Hex.value?_digitChar (d := b.toNat / 16) (by omega))
      (Hex.value?_digitChar (d := b.toNat % 16) (by omega)) ih
    rwa [halves] at escaped

/-! ### Reading fields -/

/-- A name and a value with `=` between them are a field. -/
theorem field_of_spells {name value : String} {n v : List Char}
    (name_spells : Spells n (Utf8.encode name.toList))
    (value_spells : Spells v (Utf8.encode value.toList)) :
    field (Utf8.encode (n ++ '=' :: v)) = (name, value) := by
  have absent : 0x3d ∉ Utf8.encode n := fun inside =>
    name_spells.not_mem (by decide) (Utf8.mem_of_mem_encode (c := '=') (by decide) inside)
  rw [field, Utf8.encode_append, Utf8.encode_cons_ascii (by decide)]
  change (decode (List.takeWhile _ (_ ++ 0x3d :: _)),
    decode (List.drop 1 (List.dropWhile _ (_ ++ 0x3d :: _)))) = _
  rw [Separator.takeWhile_ne absent, Separator.dropWhile_ne absent, decode_of_spells name_spells]
  exact congrArg _ (decode_of_spells value_spells)

/-- The encoding of joined texts joins their encodings. -/
theorem encode_intercalate (written : List (List Char)) :
    Utf8.encode (['&'].intercalate written) = [0x26].intercalate (written.map Utf8.encode) := by
  induction written with
  | nil => rfl
  | cons first rest ih =>
    cases rest with
    | nil => simp
    | cons second rest =>
      rw [List.map_cons, List.map_cons, List.intercalate_cons_cons, List.intercalate_cons_cons,
        Utf8.encode_append, Utf8.encode_append, ih]
      rfl

/-- Fields joined by `&` are these fields, without the empty ones. -/
theorem fields_intercalate {written : List (List Char)} (some_field : written ≠ [])
    (apart : ∀ f ∈ written, '&' ∉ f) :
    fields (Utf8.encode (['&'].intercalate written))
      = (written.filter (· ≠ [])).map fun f => field (Utf8.encode f) := by
  have split : List.splitOn 0x26 ([0x26].intercalate (written.map Utf8.encode))
      = written.map Utf8.encode := by
    apply List.splitOn_intercalate
    · intro bytes hbytes inside
      obtain ⟨f, hf, rfl⟩ := List.mem_map.mp hbytes
      exact apart f hf (Utf8.mem_of_mem_encode (c := '&') (by decide) inside)
    · rwa [ne_eq, List.map_eq_nil_iff]
  have nonempty : (fun f => decide (Utf8.encode f ≠ [])) = fun f => decide (f ≠ []) := by
    funext f
    simp only [ne_eq, Utf8.encode_eq_nil]
  rw [fields, encode_intercalate, split, List.filter_map, List.map_map]
  exact congrArg (fun p => (written.filter p).map _) nonempty

/-- Where one field has a name that no other has, its value is the only one under that name. -/
theorem values_of_only {before after : List (List Char)} {own : List Char} {name value : String}
    (own_field : field (Utf8.encode own) = (name, value)) (nonempty : own ≠ [])
    (others : ∀ f ∈ before ++ after, (field (Utf8.encode f)).1 ≠ name)
    (apart : ∀ f ∈ before ++ own :: after, '&' ∉ f) :
    ((fields (Utf8.encode (['&'].intercalate (before ++ own :: after)))).filter
      (·.1 = name)).map Prod.snd = [value] := by
  have none_named : ∀ fs : List (List Char), fs ⊆ before ++ after →
      ((fs.filter (· ≠ [])).map fun f => field (Utf8.encode f)).filter (·.1 = name) = [] := by
    intro fs sub
    rw [List.filter_eq_nil_iff]
    intro pair hpair
    obtain ⟨f, hf, rfl⟩ := List.mem_map.mp hpair
    rw [decide_eq_true_eq]
    exact others f (sub (List.mem_filter.mp hf).1)
  have own_named : ((own :: after).filter (· ≠ [])).map (fun f => field (Utf8.encode f))
      = (name, value) :: (after.filter (· ≠ [])).map fun f => field (Utf8.encode f) := by
    rw [List.filter_cons_of_pos (by simpa using nonempty), List.map_cons, own_field]
  rw [fields_intercalate (List.append_ne_nil_of_right_ne_nil _ (List.cons_ne_nil _ _)) apart,
    List.filter_append, List.map_append, List.filter_append, own_named,
    none_named before (List.subset_append_left ..), List.filter_cons_of_pos (by simp),
    none_named after (List.subset_append_right ..)]
  rfl

/-- Exactly one field has a name, if any value is found under it. -/
theorem only?_eq_some {fields : List (String × String)} {name value : String} :
    only? fields name = some value ↔ (fields.filter (·.1 = name)).map Prod.snd = [value] := by
  unfold only?
  generalize fields.filter (·.1 = name) = named
  match named with
  | [] => simp
  | [_] => simp
  | _ :: _ :: _ => simp

end Parley.Form
