import Parley.Json.Node

/-!
# The grammar of JSON texts

`StandsFor` is the grammar: which texts are a value, an element, that is a value between blanks, the
items of an array or the members of an object, and which tree each stands for. A string literal is
spelled by pieces, and stands for a text if the surrogates among its escapes come in pairs
(`Piece.text?`); a literal that stands for no text is part of the grammar all the same. A numeral is
spelled by a whole part without leading zeros and, if there are any, a fraction and an exponent.

Nothing here mentions a reader.
-/

namespace Parley

namespace Json

/-- Spaces, tabs and ends of lines. -/
def Blank (text : List Char) : Prop :=
  ∀ c ∈ text, c = ' ' ∨ c = '\t' ∨ c = '\n' ∨ c = '\r'

/-! ### String literals -/

/-- The letters that may follow a backslash, each with the character it stands for. -/
def letters : List (Char × Char) :=
  [('"', '"'), ('\\', '\\'), ('/', '/'), ('b', '\x08'), ('f', '\x0c'), ('n', '\n'), ('r', '\r'),
    ('t', '\t')]

/-- A piece of a string literal: a character, or a code unit of UTF-16. -/
inductive Piece where
  | char (c : Char)
  | unit (n : Nat)

namespace Piece

/-- A character stands for itself, or for another after a backslash; a code unit is written with
four digits. -/
inductive Spells : Piece → List Char → Prop
  | plain {c : Char} (quote : c ≠ '"') (backslash : c ≠ '\\') (printable : 0x20 ≤ c.toNat) :
    Spells (.char c) [c]
  | letter {l c : Char} (listed : (l, c) ∈ letters) : Spells (.char c) ['\\', l]
  | digits {ds : List Char} {n : Nat} (four : ds.length = 4) (value : Hex.number? ds = some n) :
    Spells (.unit n) ('\\' :: 'u' :: ds)

/-- Whether a code unit is the first half of a surrogate pair. -/
def IsHigh (n : Nat) : Prop := 0xD800 ≤ n ∧ n < 0xDC00

/-- Whether a code unit is the second half of a surrogate pair. -/
def IsLow (n : Nat) : Prop := 0xDC00 ≤ n ∧ n < 0xE000

instance (n : Nat) : Decidable (IsHigh n) := inferInstanceAs (Decidable (_ ∧ _))

instance (n : Nat) : Decidable (IsLow n) := inferInstanceAs (Decidable (_ ∧ _))

/-- The text of pieces, unless a half of a surrogate pair stands alone. -/
def text? : List Piece → Option (List Char)
  | [] => some []
  | .char c :: rest => (text? rest).map (c :: ·)
  | .unit n :: rest =>
    if IsHigh n then
      match rest with
      | .unit m :: more =>
        if IsLow m then
          (text? more).map (Char.ofNat (0x10000 + (n - 0xD800) * 0x400 + (m - 0xDC00)) :: ·)
        else none
      | _ => none
    else if IsLow n then none
    else (text? rest).map (Char.ofNat n :: ·)

/-- A code unit that is no half of a surrogate pair stands for its character. -/
theorem text?_of_plain {n : Nat} (notHigh : ¬IsHigh n) (notLow : ¬IsLow n) (rest : List Piece) :
    text? (.unit n :: rest) = (text? rest).map (Char.ofNat n :: ·) := by
  conv => lhs; unfold text?
  rw [if_neg notHigh, if_neg notLow]

/-- What pieces stand for. -/
def value (pieces : List Piece) : Except TextFault String :=
  (text? pieces).elim (.error .surrogate) fun text => .ok (String.ofList text)

end Piece

/-- The spellings of pieces one after the other. -/
inductive Pieces : List Piece → List Char → Prop
  | nil : Pieces [] []
  | concat {pieces : List Piece} {text more : List Char} {piece : Piece} (body : Pieces pieces text)
    (spelled : piece.Spells more) : Pieces (pieces ++ [piece]) (text ++ more)

/-- A string literal: pieces between quotes. -/
inductive StringLiteral : List Piece → List Char → Prop
  | quoted {pieces : List Piece} {text : List Char} (body : Pieces pieces text) :
    StringLiteral pieces ('"' :: text ++ ['"'])

/-! ### Numerals -/

/-- Digits, at least one. -/
structure Digits (text : List Char) : Prop where
  some_digit : text ≠ []
  digits : ∀ c ∈ text, Decimal.isDigit c

/-- The fraction of a numeral: its value and the number of its digits. -/
inductive Fraction : Option (Nat × Nat) → List Char → Prop
  | absent : Fraction none []
  | point {ds : List Char} (digits : Digits ds) :
    Fraction (some (Decimal.accumulate 0 ds, ds.length)) ('.' :: ds)

/-- The sign of an exponent, which may be left out. -/
inductive ExponentSign : Bool → List Char → Prop
  | absent : ExponentSign false []
  | plus : ExponentSign false ['+']
  | minus : ExponentSign true ['-']

/-- The exponent of a numeral: its sign and its value. -/
inductive Exponent : Option (Bool × Nat) → List Char → Prop
  | absent : Exponent none []
  | mark {c : Char} {minus : Bool} {sign ds : List Char} (letter : c = 'e' ∨ c = 'E')
    (signed : ExponentSign minus sign) (digits : Digits ds) :
    Exponent (some (minus, Decimal.accumulate 0 ds)) (c :: sign ++ ds)

/-- The sign of a negative numeral, and the whole part. -/
def wholeText (negative : Bool) (whole : Nat) : List Char :=
  (if negative then ['-'] else []) ++ Decimal.digits whole

end Json

/-- A numeral in its parts: the whole part with its sign, the fraction and the exponent. -/
inductive Numeral.Spells : Numeral → List Char → Prop
  | parts {negative : Bool} {whole : Nat} {fraction : Option (Nat × Nat)}
    {exponent : Option (Bool × Nat)} {f e : List Char} (broken : Json.Fraction fraction f)
    (scaled : Json.Exponent exponent e) :
    Spells ⟨negative, whole, fraction, exponent⟩
      (Json.wholeText negative whole ++ f ++ e)

namespace Json

/-! ### Values -/

/-- What a stretch of text may stand for. -/
inductive Meaning where
  | value (node : Node)
  /-- A value between blanks. -/
  | element (node : Node)
  | items (items : List Node)
  | member (member : Option String × Node)
  | members (members : List (Option String × Node))

/-- A key between blanks, if it stands for a text. -/
inductive Key : Option String → List Char → Prop
  | mk {before text after : List Char} {pieces : List Piece} (blank : Blank before)
    (literal : StringLiteral pieces text) (blank' : Blank after) :
    Key (Piece.value pieces).toOption (before ++ text ++ after)

/-- The text stands for this. Items and members are never none; an array or an object without any
has blanks in their place. -/
inductive StandsFor : List Char → Meaning → Prop
  | null : StandsFor "null".toList (.value .null)
  | isTrue : StandsFor "true".toList (.value (.bool true))
  | isFalse : StandsFor "false".toList (.value (.bool false))
  | number {n : Numeral} {text : List Char} (spelled : n.Spells text) :
    StandsFor text (.value (.number n))
  | literal {pieces : List Piece} {text : List Char} (quoted : StringLiteral pieces text) :
    StandsFor text (.value (.text (Piece.value pieces)))
  | noItems {text : List Char} (blank : Blank text) :
    StandsFor ('[' :: text ++ [']']) (.value (.array []))
  | array {text : List Char} {items : List Node} (stands : StandsFor text (.items items)) :
    StandsFor ('[' :: text ++ [']']) (.value (.array items))
  | noMembers {text : List Char} (blank : Blank text) :
    StandsFor ('{' :: text ++ ['}']) (.value (.object []))
  | object {text : List Char} {members : List (Option String × Node)}
    (stands : StandsFor text (.members members)) :
    StandsFor ('{' :: text ++ ['}']) (.value (.object members))
  | element {before text after : List Char} {node : Node} (blank : Blank before)
    (stands : StandsFor text (.value node)) (blank' : Blank after) :
    StandsFor (before ++ text ++ after) (.element node)
  | firstItem {text : List Char} {node : Node} (stands : StandsFor text (.element node)) :
    StandsFor text (.items [node])
  | nextItem {earlier text : List Char} {items : List Node} {node : Node}
    (before : StandsFor earlier (.items items)) (stands : StandsFor text (.element node)) :
    StandsFor (earlier ++ ',' :: text) (.items (items ++ [node]))
  | member {text more : List Char} {name : Option String} {node : Node} (key : Key name text)
    (stands : StandsFor more (.element node)) :
    StandsFor (text ++ ':' :: more) (.member (name, node))
  | firstMember {text : List Char} {m : Option String × Node}
    (stands : StandsFor text (.member m)) : StandsFor text (.members [m])
  | nextMember {earlier text : List Char} {members : List (Option String × Node)}
    {m : Option String × Node} (before : StandsFor earlier (.members members))
    (stands : StandsFor text (.member m)) :
    StandsFor (earlier ++ ',' :: text) (.members (members ++ [m]))

/-! ### Sequences from the front -/

/-- A piece in front of pieces. -/
theorem Pieces.cons {pieces : List Piece} {text more : List Char} {piece : Piece}
    (body : Pieces pieces text) (spelled : piece.Spells more) :
    Pieces (piece :: pieces) (more ++ text) := by
  induction body with
  | nil => simpa using Pieces.concat .nil spelled
  | concat _ last ih => simpa using ih.concat last

/-- An item in front of items. -/
theorem StandsFor.items_cons {earlier text : List Char} {node : Node} {items : List Node}
    (stands : StandsFor text (.items items)) (first : StandsFor earlier (.element node)) :
    StandsFor (earlier ++ ',' :: text) (.items (node :: items)) := by
  generalize said : Meaning.items items = m at stands
  induction stands generalizing items with
  | firstItem stands =>
    cases said
    exact .nextItem (.firstItem first) stands
  | nextItem _ stands ih =>
    cases said
    simpa using (ih rfl).nextItem stands
  | _ => cases said

/-- A member in front of members. -/
theorem StandsFor.members_cons {earlier text : List Char} {m : Option String × Node}
    {members : List (Option String × Node)} (stands : StandsFor text (.members members))
    (first : StandsFor earlier (.member m)) :
    StandsFor (earlier ++ ',' :: text) (.members (m :: members)) := by
  generalize said : Meaning.members members = meaning at stands
  induction stands generalizing members with
  | firstMember stands =>
    cases said
    exact .nextMember (.firstMember first) stands
  | nextMember _ stands ih =>
    cases said
    simpa using (ih rfl).nextMember stands
  | _ => cases said

/-! ### Blanks at the end -/

/-- The empty text is blank. -/
theorem Blank.nil : Blank [] := by
  intro c inside
  cases inside

/-- A blank text stays blank with one more blank. -/
theorem Blank.concat {text : List Char} (blank : Blank text) {c : Char}
    (last : c = ' ' ∨ c = '\t' ∨ c = '\n' ∨ c = '\r') : Blank (text ++ [c]) := by
  intro d inside
  rcases List.mem_append.mp inside with earlier | same
  · exact blank d earlier
  · exact List.mem_singleton.mp same ▸ last

/-- A value is an element without blanks. -/
theorem StandsFor.element_of_value {text : List Char} {node : Node}
    (stands : StandsFor text (.value node)) : StandsFor text (.element node) := by
  simpa using StandsFor.element .nil stands .nil

section

variable {text : List Char} {c : Char} (last : c = ' ' ∨ c = '\t' ∨ c = '\n' ∨ c = '\r')

include last

/-- A key may be followed by a blank. -/
theorem Key.concat {name : Option String} (key : Key name text) : Key name (text ++ [c]) := by
  cases key with
  | mk blank literal blank' =>
    rw [List.append_assoc]
    exact .mk blank literal (blank'.concat last)

/-- An element may be followed by a blank. -/
theorem StandsFor.element_concat {node : Node} (stands : StandsFor text (.element node)) :
    StandsFor (text ++ [c]) (.element node) := by
  cases stands with
  | element blank stands blank' =>
    rw [List.append_assoc]
    exact .element blank stands (blank'.concat last)

/-- Items may be followed by a blank, which belongs to the last of them. -/
theorem StandsFor.items_concat {items : List Node} (stands : StandsFor text (.items items)) :
    StandsFor (text ++ [c]) (.items items) := by
  cases stands with
  | firstItem stands => exact .firstItem (stands.element_concat last)
  | nextItem before stands =>
    rw [List.append_assoc, List.cons_append]
    exact .nextItem before (stands.element_concat last)

/-- A member may be followed by a blank. -/
theorem StandsFor.member_concat {m : Option String × Node} (stands : StandsFor text (.member m)) :
    StandsFor (text ++ [c]) (.member m) := by
  cases stands with
  | member key stands =>
    rw [List.append_assoc, List.cons_append]
    exact .member key (stands.element_concat last)

/-- Members may be followed by a blank, which belongs to the last of them. -/
theorem StandsFor.members_concat {members : List (Option String × Node)}
    (stands : StandsFor text (.members members)) : StandsFor (text ++ [c]) (.members members) := by
  cases stands with
  | firstMember stands => exact .firstMember (stands.member_concat last)
  | nextMember before stands =>
    rw [List.append_assoc, List.cons_append]
    exact .nextMember before (stands.member_concat last)

end

end Json

end Parley
