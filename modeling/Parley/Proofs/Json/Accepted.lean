import Parley.Proofs.Json.Literals
import Parley.Proofs.Json.Numerals

/-!
# The texts that are read

A text is read as a tree exactly if the grammar says that it stands for the tree
(`Node.ofChars?_eq_some_iff`).

What the reader has read at any time is a text that leads to its state (`Leads`): a beginning of
each container that is open, each inside the one before (`Opens`), and inside the innermost a
beginning of what may come there. Every character leads on from such a text (`Leads.step`), so the
text that leads to the end is a whole element. The other way round, each rule of the grammar is a
run of the reader (`arrives_of_standsFor`), after which it holds what the text stands for (`Holds`).
-/

namespace Parley

namespace Json.Reader

/-- The four blanks. -/
theorem isBlank_iff {c : Char} :
    isBlank c = true ↔ c = ' ' ∨ c = '\t' ∨ c = '\n' ∨ c = '\r' := by
  simp [isBlank, or_assoc]

/-! ### Texts that lead to a state -/

/-- Entries of a list that have been read, with the comma after them. -/
inductive Earlier {α : Type} (list : List α → Meaning) : List α → List Char → Prop
  | none : Earlier list [] []
  | some {xs : List α} {text : List Char} (stands : StandsFor text (list xs)) :
    Earlier list xs (text ++ [','])

/-- The texts after which an element may come inside open containers. -/
inductive Opens : List Container → List Char → Prop
  | root : Opens [] []
  | array {stack : List Container} {read : List Node} {before blank text : List Char}
    (opens : Opens stack before) (isBlank : Blank blank)
    (earlier : Earlier .items read.reverse text) :
    Opens (.array read :: stack) (before ++ blank ++ '[' :: text)
  | object {stack : List Container} {read : List (Option String × Node)} {key : Option String}
    {before blank text keyText : List Char} (opens : Opens stack before) (isBlank : Blank blank)
    (earlier : Earlier .members read.reverse text) (named : Key key keyText) :
    Opens (.object read key :: stack) (before ++ blank ++ '{' :: text ++ keyText ++ [':'])

/-- The texts after which a value may come: those after which an element may, and blanks. -/
def Place (stack : List Container) (text : List Char) : Prop :=
  ∃ before blank, Opens stack before ∧ Blank blank ∧ text = before ++ blank

/-- The texts that lead to a state. -/
inductive Leads : State → List Char → Prop
  | value {stack : List Container} {text : List Char} (place : Place stack text) :
    Leads ⟨stack, .value⟩ text
  | firstItem {stack : List Container} {text before blank : List Char} (place : Place stack before)
    (isBlank : Blank blank) (same : text = before ++ '[' :: blank) :
    Leads ⟨.array [] :: stack, .firstItem⟩ text
  | firstKey {stack : List Container} {text before blank : List Char} (place : Place stack before)
    (isBlank : Blank blank) (same : text = before ++ '{' :: blank) :
    Leads ⟨.object [] none :: stack, .firstKey⟩ text
  | key {stack : List Container} {read : List (Option String × Node)} {old : Option String}
    {text before ms blank : List Char} (place : Place stack before)
    (stands : StandsFor ms (.members read.reverse)) (isBlank : Blank blank)
    (same : text = before ++ '{' :: ms ++ ',' :: blank) :
    Leads ⟨.object read old :: stack, .key⟩ text
  | colon {stack : List Container} {read : List (Option String × Node)} {key : Option String}
    {text before ms keyText : List Char} (place : Place stack before)
    (earlier : Earlier .members read.reverse ms) (named : Key key keyText)
    (same : text = before ++ '{' :: ms ++ keyText) :
    Leads ⟨.object read key :: stack, .colon⟩ text
  | items {stack : List Container} {read : List Node} {text before is : List Char}
    (place : Place stack before) (stands : StandsFor is (.items read.reverse))
    (same : text = before ++ '[' :: is) : Leads ⟨.array read :: stack, .after⟩ text
  | members {stack : List Container} {read : List (Option String × Node)} {key : Option String}
    {text before ms : List Char} (place : Place stack before)
    (stands : StandsFor ms (.members read.reverse)) (same : text = before ++ '{' :: ms) :
    Leads ⟨.object read key :: stack, .after⟩ text
  | literal {stack : List Container} {l : Literal} {text before body : List Char}
    (place : Place stack before) (inside : InLiteral l body) (same : text = before ++ '"' :: body) :
    Leads ⟨stack, .literal false l⟩ text
  | keyLiteral {stack : List Container} {read : List (Option String × Node)} {old : Option String}
    {l : Literal} {text before ms blank body : List Char} (place : Place stack before)
    (earlier : Earlier .members read.reverse ms) (isBlank : Blank blank) (inside : InLiteral l body)
    (same : text = before ++ '{' :: ms ++ blank ++ '"' :: body) :
    Leads ⟨.object read old :: stack, .literal true l⟩ text
  | numeral {stack : List Container} {phase : Phase} {n : Numeral} {text before body : List Char}
    (place : Place stack before) (inside : InNumeral phase n body) (same : text = before ++ body) :
    Leads ⟨stack, .numeral phase n⟩ text
  | word {stack : List Container} {node : Node} {text before done rest : List Char}
    (place : Place stack before) (stands : StandsFor (done ++ rest) (.value node))
    (same : text = before ++ done) : Leads ⟨stack, .word rest node⟩ text
  | finished {node : Node} {text : List Char} (stands : StandsFor text (.element node)) :
    Leads ⟨[], .finished node⟩ text

/-! ### From one text to the next -/

section

variable {stack : List Container} {state next : State} {before text more : List Char} {c : Char}
  {node : Node}

/-- One item more makes items, be it the first. -/
theorem Earlier.items_concat {items : List Node} (earlier : Earlier .items items text)
    (stands : StandsFor more (.element node)) :
    StandsFor (text ++ more) (.items (items ++ [node])) := by
  cases earlier with
  | none => exact .firstItem stands
  | some before =>
    rw [List.append_assoc]
    exact .nextItem before stands

/-- One member more makes members, be it the first. -/
theorem Earlier.members_concat {members : List (Option String × Node)} {m : Option String × Node}
    (earlier : Earlier .members members text) (stands : StandsFor more (.member m)) :
    StandsFor (text ++ more) (.members (members ++ [m])) := by
  cases earlier with
  | none => exact .firstMember stands
  | some before =>
    rw [List.append_assoc]
    exact .nextMember before stands

/-- Where a value may come, a blank may come first. -/
theorem Place.concat (place : Place stack text) (blank : isBlank c = true) :
    Place stack (text ++ [c]) := by
  obtain ⟨before, blanks, opens, areBlank, rfl⟩ := place
  exact ⟨before, blanks ++ [c], opens, areBlank.concat (isBlank_iff.mp blank), List.append_assoc ..⟩

/-- Inside an array an item may come at its beginning or after a comma. -/
theorem Place.array {read : List Node} {blank : List Char} (place : Place stack before)
    (earlier : Earlier .items read.reverse text) (areBlank : Blank blank) :
    Place (.array read :: stack) (before ++ '[' :: text ++ blank) := by
  obtain ⟨before, blanks, opens, areBlank', rfl⟩ := place
  exact ⟨_, blank, .array opens areBlank' earlier, areBlank, rfl⟩

/-- Inside an object a value may come after its key and a colon. -/
theorem Place.object {read : List (Option String × Node)} {key : Option String}
    {keyText : List Char} (place : Place stack before)
    (earlier : Earlier .members read.reverse text) (named : Key key keyText) :
    Place (.object read key :: stack) (before ++ '{' :: text ++ keyText ++ [':']) := by
  obtain ⟨before, blanks, opens, areBlank, rfl⟩ := place
  exact ⟨_, [], .object opens areBlank earlier named, .nil, (List.append_nil _).symm⟩

/-- A complete value leads on to what may come after it. -/
theorem leads_put (place : Place stack before) (stands : StandsFor text (.value node)) :
    Leads (put node stack) (before ++ text) := by
  obtain ⟨before, blank, opens, areBlank, rfl⟩ := place
  have element : StandsFor (blank ++ text) (.element node) := by
    simpa using StandsFor.element areBlank stands .nil
  cases opens with
  | root => exact .finished (by simpa using element)
  | array opens areBlank' earlier =>
    have items := earlier.items_concat element
    rw [← List.reverse_cons] at items
    exact .items ⟨_, _, opens, areBlank', rfl⟩ items (by simp)
  | object opens areBlank' earlier named =>
    have members := earlier.members_concat (.member named element)
    rw [← List.reverse_cons] at members
    exact .members ⟨_, _, opens, areBlank', rfl⟩ members (by simp)

/-- The first character of a value. -/
theorem leads_start (place : Place stack text) (taken : start stack c = some next) :
    Leads next (text ++ [c]) := by
  unfold start at taken
  split_ifs at taken with brace bracket quote minus t f n
  · obtain rfl := Option.some.inj taken
    exact .firstKey place .nil (by rw [brace])
  · obtain rfl := Option.some.inj taken
    exact .firstItem place .nil (by rw [bracket])
  · obtain rfl := Option.some.inj taken
    exact .literal place (.pieces .nil) (by rw [quote])
  · obtain rfl := Option.some.inj taken
    exact .numeral place .sign (by rw [minus])
  · obtain rfl := Option.some.inj taken
    exact .word place .isTrue (by rw [t])
  · obtain rfl := Option.some.inj taken
    exact .word place .isFalse (by rw [f])
  · obtain rfl := Option.some.inj taken
    exact .word place .null (by rw [n])
  · obtain ⟨⟨phase, n⟩, digit, rfl⟩ := Option.map_eq_some_iff.mp taken
    exact .numeral place (InNumeral.start digit) rfl

/-- A character after a complete value. -/
theorem Leads.stepAfter (leads : Leads state text) (taken : stepAfter state c = some next) :
    Leads next (text ++ [c]) := by
  cases leads with
  | items place stands same =>
    subst same
    unfold Reader.stepAfter at taken
    dsimp only at taken
    split_ifs at taken with blank comma
    · obtain rfl := Option.some.inj taken
      exact .items place (stands.items_concat (isBlank_iff.mp blank)) (by simp)
    · obtain rfl := Option.some.inj taken
      subst comma
      have place := place.array (.some stands) .nil
      exact .value (by simpa using place)
    · obtain ⟨rfl, same⟩ := Option.ite_none_right_eq_some.mp taken
      obtain rfl := Option.some.inj same
      have leads := leads_put place (.array stands)
      simpa using leads
  | members place stands same =>
    subst same
    unfold Reader.stepAfter at taken
    dsimp only at taken
    split_ifs at taken with blank comma
    · obtain rfl := Option.some.inj taken
      exact .members place (stands.members_concat (isBlank_iff.mp blank)) (by simp)
    · obtain rfl := Option.some.inj taken
      subst comma
      exact .key place stands .nil (by simp)
    · obtain ⟨rfl, same⟩ := Option.ite_none_right_eq_some.mp taken
      obtain rfl := Option.some.inj same
      have leads := leads_put place (.object stands)
      simpa using leads
  | finished stands =>
    obtain ⟨blank, same⟩ := Option.ite_none_right_eq_some.mp taken
    obtain rfl := Option.some.inj same
    exact .finished (stands.element_concat (isBlank_iff.mp blank))
  | _ => cases taken

/-- A character of a string literal, or the quote after it. -/
theorem putLiteral_or_step {isKey : Bool} {l : Literal}
    (taken : step ⟨stack, .literal isKey l⟩ (some c) = some next) :
    (c = '"' ∧ l.escape = .none ∧ putLiteral isKey l stack = some next) ∨
      ∃ l', (l.escape = .none → c ≠ '"') ∧ l.step (some c) = some l' ∧
        next = ⟨stack, .literal isKey l'⟩ := by
  unfold Reader.step at taken
  dsimp only at taken
  split_ifs at taken with closes
  · exact .inl ⟨Option.some.inj closes.2, closes.1, taken⟩
  · obtain ⟨l', read, rfl⟩ := Option.map_eq_some_iff.mp taken
    exact .inr ⟨l', fun between quote => closes ⟨between, congrArg some quote⟩, read, rfl⟩

/-- A character of a numeral, or one after it. -/
theorem extend_or_stepAfter {phase : Phase} {n : Numeral}
    (taken : step ⟨stack, .numeral phase n⟩ (some c) = some next) :
    (∃ phase' n', extend phase n c = some (phase', n') ∧ next = ⟨stack, .numeral phase' n'⟩) ∨
      phase.complete ∧ stepAfter (put (.number n) stack) c = some next := by
  unfold step stepChar at taken
  dsimp only at taken
  cases extended : extend phase n c with
  | some longer =>
    rw [extended] at taken
    exact .inl ⟨_, _, rfl, (Option.some.inj taken).symm⟩
  | none =>
    rw [extended] at taken
    exact .inr (Option.ite_none_right_eq_some.mp taken)

/-- Every character that is taken leads on. -/
theorem Leads.step (leads : Leads state text) (taken : step state (some c) = some next) :
    Leads next (text ++ [c]) := by
  cases leads with
  | value place =>
    change (if isBlank c then _ else start _ c) = some next at taken
    split_ifs at taken with blank
    · obtain rfl := Option.some.inj taken
      exact .value (place.concat blank)
    · exact leads_start place taken
  | firstItem place areBlank same =>
    subst same
    change (if isBlank c then _ else close _ c <|> start _ c) = some next at taken
    split_ifs at taken with blank
    · obtain rfl := Option.some.inj taken
      exact .firstItem place (areBlank.concat (isBlank_iff.mp blank)) (by simp)
    · -- the bracket that closes an empty array is looked for before a value
      rcases (Option.orElse_eq_some ..).mp taken with closed | ⟨-, started⟩
      · obtain ⟨rfl, same⟩ := Option.ite_none_right_eq_some.mp closed
        obtain rfl := Option.some.inj same
        have leads := leads_put place (.noItems areBlank)
        simpa using leads
      · have noItem : Earlier .items ([] : List Node).reverse [] := .none
        have place := place.array noItem areBlank
        exact leads_start (by simpa using place) started
  | firstKey place areBlank same =>
    subst same
    change (if isBlank c then _ else if c = '"' then _ else close _ c) = some next at taken
    split_ifs at taken with blank quote
    · obtain rfl := Option.some.inj taken
      exact .firstKey place (areBlank.concat (isBlank_iff.mp blank)) (by simp)
    · obtain rfl := Option.some.inj taken
      subst quote
      exact .keyLiteral place .none areBlank (.pieces .nil) (by simp)
    · obtain ⟨rfl, same⟩ := Option.ite_none_right_eq_some.mp taken
      obtain rfl := Option.some.inj same
      have leads := leads_put place (.noMembers areBlank)
      simpa using leads
  | key place stands areBlank same =>
    subst same
    change (if isBlank c then _ else if c = '"' then _ else none) = some next at taken
    split_ifs at taken with blank quote
    · obtain rfl := Option.some.inj taken
      exact .key place stands (areBlank.concat (isBlank_iff.mp blank)) (by simp)
    · obtain rfl := Option.some.inj taken
      subst quote
      exact .keyLiteral place (.some stands) areBlank (.pieces .nil) (by simp)
  | colon place earlier named same =>
    subst same
    change (if isBlank c then _ else if c = ':' then _ else none) = some next at taken
    split_ifs at taken with blank colon
    · obtain rfl := Option.some.inj taken
      exact .colon place earlier (named.concat (isBlank_iff.mp blank)) (by simp)
    · obtain rfl := Option.some.inj taken
      subst colon
      exact .value (place.object earlier named)
  | items place stands same => exact (Leads.items place stands same).stepAfter taken
  | members place stands same => exact (Leads.members place stands same).stepAfter taken
  | finished stands => exact (Leads.finished stands).stepAfter taken
  | literal place inside same =>
    subst same
    rcases putLiteral_or_step taken with ⟨rfl, between, closed⟩ | ⟨l', notClosed, read, rfl⟩
    · obtain ⟨pieces, spelled, rfl⟩ := inside.exists_pieces between
      obtain rfl := Option.some.inj closed
      have leads := leads_put place (.literal (.quoted spelled))
      rw [Literal.text_after]
      simpa using leads
    · exact .literal place (inside.step notClosed read) (by simp)
  | keyLiteral place earlier areBlank inside same =>
    subst same
    rcases putLiteral_or_step taken with ⟨rfl, between, closed⟩ | ⟨l', notClosed, read, rfl⟩
    · obtain ⟨pieces, spelled, rfl⟩ := inside.exists_pieces between
      obtain rfl := Option.some.inj closed
      rw [Literal.text_after]
      exact .colon place earlier (.mk areBlank (.quoted spelled) .nil) (by simp)
    · exact .keyLiteral place earlier areBlank (inside.step notClosed read) (by simp)
  | numeral place inside same =>
    subst same
    rcases extend_or_stepAfter taken with ⟨_, _, longer, rfl⟩ | ⟨complete, after⟩
    · exact .numeral place (inside.extend longer) (by simp)
    · exact (leads_put place (.number (inside.spells complete))).stepAfter after
  | @word _ node _ before done rest place stands same =>
    subst same
    match rest, taken with
    | [letter], taken =>
      obtain ⟨rfl, same⟩ := Option.ite_none_right_eq_some.mp taken
      obtain rfl := Option.some.inj same
      have leads := leads_put place stands
      simpa using leads
    | letter :: next' :: rest, taken =>
      obtain ⟨rfl, same⟩ := Option.ite_none_right_eq_some.mp taken
      obtain rfl := Option.some.inj same
      rw [← List.singleton_append, ← List.append_assoc] at stands
      exact .word place stands (by simp)

end

/-- A run leads from what was read before to that and its text. -/
theorem Leads.run {state next : State} {before text : List Char} (leads : Leads state before)
    (read : run state text = some next) : Leads next (before ++ text) := by
  induction text generalizing state before with
  | nil =>
    obtain rfl := Option.some.inj read
    rwa [List.append_nil]
  | cons c rest ih =>
    rw [run_cons] at read
    obtain ⟨_, taken, read⟩ := Option.bind_eq_some_iff.mp read
    rw [← List.singleton_append, ← List.append_assoc]
    exact ih (leads.step taken) read

/-- A text that may end here stands for the tree that it has led to. -/
theorem Leads.root? {state : State} {text : List Char} {node : Node} (leads : Leads state text)
    (root : state.root? = some node) : StandsFor text (.element node) := by
  cases leads with
  | finished stands =>
    obtain rfl := Option.some.inj root
    exact stands
  | @numeral stack phase n _ before body place inside same =>
    subst same
    cases stack with
    | cons => cases root
    | nil =>
      obtain ⟨complete, same⟩ := Option.ite_none_right_eq_some.mp root
      obtain rfl := Option.some.inj same
      obtain ⟨_, blank, opens, areBlank, rfl⟩ := place
      cases opens
      simpa using StandsFor.element areBlank (.number (inside.spells complete)) .nil
  | _ => cases root

/-! ### Runs along the grammar -/

section

variable {stack : List Container} {text : List Char}

/-- Whether a reader skips blanks: before a value, a key, a colon or the end of an empty
container. -/
def skips : Mode → Bool
  | .value | .firstItem | .firstKey | .key | .colon => true
  | _ => false

/-- Where blanks are skipped, they leave the reader as it is. -/
theorem run_blank (mode : Mode) (skipping : skips mode = true) {blank : List Char}
    (areBlank : Blank blank) : run ⟨stack, mode⟩ blank = some ⟨stack, mode⟩ := by
  have skipped (c : Char) (isBlank : isBlank c = true) :
      step ⟨stack, mode⟩ (some c) = some ⟨stack, mode⟩ := by
    cases mode with
    | value | firstItem | firstKey | key | colon => exact if_pos isBlank
    | _ => cases skipping
  induction blank with
  | nil => rfl
  | cons c rest ih =>
    rw [run_cons, skipped c (isBlank_iff.mpr (areBlank c (by simp))), Option.bind_some]
    exact ih fun d inside => areBlank d (by simp [inside])

/-- Blanks after a value leave it held. -/
theorem Holds.run_blank {node : Node} {state : State} (held : Holds node stack state)
    {blank : List Char} (areBlank : Blank blank) :
    ∃ later, run state blank = some later ∧ Holds node stack later := by
  induction blank generalizing state with
  | nil => exact ⟨state, rfl, held⟩
  | cons c rest ih =>
    have listed : c ∈ delimiters := by
      rcases areBlank c (by simp) with rfl | rfl | rfl | rfl <;> decide
    have skipped : stepAfter (put node stack) c = some (put node stack) := by
      have blank : isBlank c = true := isBlank_iff.mpr (areBlank c (by simp))
      match stack with
      | [] => exact if_pos blank
      | .array _ :: _ => exact if_pos blank
      | .object _ _ :: _ => exact if_pos blank
    rw [run_cons, held.step_delimiter listed, skipped, Option.bind_some]
    exact ih .given fun d inside => areBlank d (by simp [inside])

/-! ### How a text begins -/

/-- A numeral begins with neither a blank nor a closing bracket. -/
theorem exists_cons_of_spells {n : Numeral} (spelled : n.Spells text) :
    ∃ c rest, text = c :: rest ∧ isBlank c = false ∧ c ≠ ']' := by
  cases spelled with
  | @parts negative whole _ _ f e =>
    have plain : ∀ d < 10, isBlank (Nat.digitChar d) = false ∧ Nat.digitChar d ≠ ']' := by decide
    obtain ⟨c, rest, digits⟩ := List.exists_cons_of_ne_nil (Decimal.digits_ne_nil whole)
    have inside : c ∈ Decimal.digits whole := by simp [digits]
    obtain ⟨d, small, rfl⟩ :=
      Decimal.exists_digitChar_of_isDigit (Decimal.isDigit_of_mem_digits inside)
    cases negative with
    | true => exact ⟨'-', _, rfl, by decide, by decide⟩
    | false => exact ⟨_, rest ++ f ++ e, by simp [wholeText, digits], plain d small⟩

/-- How the text of a meaning begins: with blanks, if there are any, and with a quote if it is a
member, and else with no bracket that closes. -/
def Begins (text : List Char) : Meaning → Prop
  | .value _ | .element _ | .items _ =>
    ∃ blank c rest, text = blank ++ c :: rest ∧ Blank blank ∧ isBlank c = false ∧ c ≠ ']'
  | .member _ | .members _ => ∃ blank rest, text = blank ++ '"' :: rest ∧ Blank blank

/-- Texts begin as their meaning says. -/
theorem begins_of_standsFor {m : Meaning} (stands : StandsFor text m) : Begins text m := by
  induction stands with
  | null | isTrue | isFalse | noItems | array | noMembers | object =>
    exact ⟨[], _, _, rfl, .nil, by decide, by decide⟩
  | number spelled =>
    obtain ⟨c, rest, rfl, plain⟩ := exists_cons_of_spells spelled
    exact ⟨[], c, rest, rfl, .nil, plain⟩
  | literal quoted =>
    cases quoted
    exact ⟨[], '"', _, rfl, .nil, by decide, by decide⟩
  | @element before _ after _ blank _ _ ih =>
    obtain ⟨blank', c, rest, rfl, areBlank, plain⟩ := ih
    refine ⟨before ++ blank', c, rest ++ after, by simp, fun d inside => ?_, plain⟩
    rcases List.mem_append.mp inside with first | second
    · exact blank d first
    · exact areBlank d second
  | firstItem _ ih => exact ih
  | nextItem _ _ ih _ =>
    obtain ⟨blank, c, rest, rfl, areBlank, plain⟩ := ih
    exact ⟨blank, c, _, List.append_assoc .., areBlank, plain⟩
  | member key =>
    obtain @⟨before, _, _, _, blank, literal, _⟩ := key
    cases literal
    exact ⟨before, _, by simp; rfl, blank⟩
  | firstMember _ ih => exact ih
  | nextMember _ _ ih _ =>
    obtain ⟨blank, rest, rfl, areBlank⟩ := ih
    exact ⟨blank, _, List.append_assoc .., areBlank⟩

/-- A first item is read as any item. -/
theorem run_firstItem_of_begins {items : List Node} (begins : Begins text (.items items)) :
    run ⟨.array [] :: stack, .firstItem⟩ text = run ⟨.array [] :: stack, .value⟩ text := by
  obtain ⟨blank, c, rest, rfl, areBlank, plain, open'⟩ := begins
  have first : step ⟨.array [] :: stack, .firstItem⟩ (some c) =
      step ⟨.array [] :: stack, .value⟩ (some c) := by
    simp [step, stepChar, plain, close, open']
  rw [run_append_of_eq (run_blank .firstItem rfl areBlank),
    run_append_of_eq (run_blank .value rfl areBlank), run_cons, run_cons, first]

/-- A first key is read as any key. -/
theorem run_firstKey_of_begins {members : List (Option String × Node)}
    (begins : Begins text (.members members)) :
    run ⟨.object [] none :: stack, .firstKey⟩ text = run ⟨.object [] none :: stack, .key⟩ text := by
  obtain ⟨blank, rest, rfl, areBlank⟩ := begins
  rw [run_append_of_eq (run_blank .firstKey rfl areBlank),
    run_append_of_eq (run_blank .key rfl areBlank)]
  rfl

/-- A quote after pieces ends their literal. -/
theorem run_stringLiteral (isKey : Bool) {pieces : List Piece} (spelled : Pieces pieces text) :
    run ⟨stack, .literal isKey {}⟩ (text ++ ['"']) = putLiteral isKey (.after pieces) stack := by
  have closes : step ⟨stack, .literal isKey (.after pieces)⟩ (some '"') =
      putLiteral isKey (.after pieces) stack :=
    if_pos ⟨Literal.escape_after pieces, rfl⟩
  rw [run_append_of_eq (run_pieces stack isKey spelled), run_cons, closes]
  cases putLiteral isKey (.after pieces) stack <;> rfl

/-- A key leads to its colon. -/
theorem run_key_of_key {read : List (Option String × Node)} {old key : Option String}
    (named : Key key text) :
    run ⟨.object read old :: stack, .key⟩ text = some ⟨.object read key :: stack, .colon⟩ := by
  obtain @⟨before, _, after, pieces, blank, literal, blank'⟩ := named
  cases literal with
  | quoted spelled =>
    have opened : step ⟨.object read old :: stack, .key⟩ (some '"') =
        some ⟨.object read old :: stack, .literal true {}⟩ := rfl
    have closed : putLiteral true (.after pieces) (.object read old :: stack) =
        some ⟨.object read (Piece.value pieces).toOption :: stack, .colon⟩ := by
      rw [← Literal.text_after]
      rfl
    rw [List.append_assoc, run_append_of_eq (run_blank .key rfl blank), List.cons_append,
      List.cons_append, run_cons, opened, Option.bind_some,
      run_append_of_eq ((run_stringLiteral true spelled).trans closed),
      run_blank .colon rfl blank']

end

/-- What a run along a text comes to, by what the text stands for. -/
def Arrives (text : List Char) : Meaning → Prop
  | .value node | .element node =>
    ∀ stack, ∃ state, run ⟨stack, .value⟩ text = some state ∧ Holds node stack state
  | .items items =>
    ∀ stack, ∃ earlier last state, items = earlier ++ [last] ∧
      run ⟨.array [] :: stack, .value⟩ text = some state ∧
        Holds last (.array earlier.reverse :: stack) state
  | .member m =>
    ∀ stack read old, ∃ state, run ⟨.object read old :: stack, .key⟩ text = some state ∧
      Holds m.2 (.object read m.1 :: stack) state
  | .members members =>
    ∀ stack, ∃ earlier m state, members = earlier ++ [m] ∧
      run ⟨.object [] none :: stack, .key⟩ text = some state ∧
        Holds m.2 (.object earlier.reverse m.1 :: stack) state

/-- A text is read as what it stands for. -/
theorem arrives_of_standsFor {text : List Char} {m : Meaning} (stands : StandsFor text m) :
    Arrives text m := by
  induction stands with
  | null | isTrue | isFalse => exact fun stack => ⟨_, rfl, .given⟩
  | number spelled =>
    intro stack
    obtain ⟨phase, read, complete⟩ := run_numeral stack spelled
    exact ⟨_, read, .numeral complete rfl⟩
  | literal quoted =>
    intro stack
    obtain ⟨spelled⟩ := quoted
    refine ⟨_, ?_, .given⟩
    have opened : step ⟨stack, .value⟩ (some '"') = some ⟨stack, .literal false {}⟩ := rfl
    rw [List.cons_append, run_cons, opened, Option.bind_some, run_stringLiteral false spelled,
      ← Literal.text_after]
    rfl
  | noItems blank =>
    intro stack
    refine ⟨_, ?_, .given⟩
    have opened : step ⟨stack, .value⟩ (some '[') = some ⟨.array [] :: stack, .firstItem⟩ := rfl
    rw [List.cons_append, run_cons, opened, Option.bind_some,
      run_append_of_eq (run_blank .firstItem rfl blank)]
    rfl
  | @array text items stands ih =>
    intro stack
    obtain ⟨earlier, last, state, rfl, read, held⟩ := ih stack
    refine ⟨_, ?_, .given⟩
    have opened : step ⟨stack, .value⟩ (some '[') = some ⟨.array [] :: stack, .firstItem⟩ := rfl
    -- the first of items begins with no closing bracket, so it is read as any other
    rw [← run_firstItem_of_begins (begins_of_standsFor stands)] at read
    rw [List.cons_append, run_cons, opened, Option.bind_some, run_append_of_eq read, run_cons,
      held.step_delimiter (by decide)]
    simp [put, stepAfter, isBlank, close]
  | noMembers blank =>
    intro stack
    refine ⟨_, ?_, .given⟩
    have opened : step ⟨stack, .value⟩ (some '{') =
        some ⟨.object [] none :: stack, .firstKey⟩ := rfl
    rw [List.cons_append, run_cons, opened, Option.bind_some,
      run_append_of_eq (run_blank .firstKey rfl blank)]
    rfl
  | @object text members stands ih =>
    intro stack
    obtain ⟨earlier, m, state, rfl, read, held⟩ := ih stack
    refine ⟨_, ?_, .given⟩
    have opened : step ⟨stack, .value⟩ (some '{') =
        some ⟨.object [] none :: stack, .firstKey⟩ := rfl
    rw [← run_firstKey_of_begins (begins_of_standsFor stands)] at read
    rw [List.cons_append, run_cons, opened, Option.bind_some, run_append_of_eq read, run_cons,
      held.step_delimiter (by decide)]
    simp [put, stepAfter, isBlank, close]
  | element blank _ blank' ih =>
    intro stack
    obtain ⟨state, read, held⟩ := ih stack
    obtain ⟨later, skipped, held⟩ := held.run_blank blank'
    refine ⟨later, ?_, held⟩
    rw [List.append_assoc, run_append_of_eq (run_blank .value rfl blank), run_append_of_eq read,
      skipped]
  | @firstItem text node _ ih =>
    intro stack
    obtain ⟨state, read, held⟩ := ih (.array [] :: stack)
    exact ⟨[], node, state, rfl, read, held⟩
  | @nextItem _ _ items node _ _ before ih =>
    intro stack
    obtain ⟨earlier, last, state, rfl, read, held⟩ := before stack
    obtain ⟨state', read', held'⟩ := ih (.array (last :: earlier.reverse) :: stack)
    have comma : step state (some ',') =
        some ⟨.array (last :: earlier.reverse) :: stack, .value⟩ := by
      rw [held.step_delimiter (by decide)]
      simp [put, stepAfter, isBlank]
    refine ⟨earlier ++ [last], node, state', rfl, ?_, by simpa using held'⟩
    rw [run_append_of_eq read, run_cons, comma, Option.bind_some, read']
  | @member _ _ key node named _ ih =>
    intro stack read old
    obtain ⟨state, arrived, held⟩ := ih (.object read key :: stack)
    have colon : step ⟨.object read key :: stack, .colon⟩ (some ':') =
        some ⟨.object read key :: stack, .value⟩ := rfl
    refine ⟨state, ?_, held⟩
    rw [run_append_of_eq (run_key_of_key named), run_cons, colon, Option.bind_some, arrived]
  | @firstMember _ m _ ih =>
    intro stack
    obtain ⟨state, read, held⟩ := ih stack [] none
    exact ⟨[], m, state, rfl, read, held⟩
  | @nextMember _ _ members m _ _ before ih =>
    intro stack
    obtain ⟨earlier, last, state, rfl, read, held⟩ := before stack
    obtain ⟨state', read', held'⟩ := ih stack ((last.1, last.2) :: earlier.reverse) last.1
    have comma : step state (some ',') =
        some ⟨.object ((last.1, last.2) :: earlier.reverse) last.1 :: stack, .key⟩ := by
      rw [held.step_delimiter (by decide)]
      simp [put, stepAfter, isBlank]
    refine ⟨earlier ++ [last], m, state', rfl, ?_, by simpa using held'⟩
    rw [run_append_of_eq read, run_cons, comma, Option.bind_some, read']

end Json.Reader

/-- **The texts that are read.** A text is read as a tree exactly if the grammar says that it is an
element which stands for the tree. -/
theorem Node.ofChars?_eq_some_iff {text : List Char} {node : Node} :
    Node.ofChars? text = some node ↔ Json.StandsFor text (.element node) := by
  have said : Node.ofChars? text =
      (Json.Reader.run .initial text).bind Json.Reader.State.root? := rfl
  rw [said, Option.bind_eq_some_iff]
  constructor
  · rintro ⟨state, read, root⟩
    have initial : Json.Reader.Leads .initial [] := .value ⟨[], [], .root, .nil, rfl⟩
    exact (initial.run read).root? root
  · intro stands
    obtain ⟨state, read, held⟩ := Json.Reader.arrives_of_standsFor stands []
    exact ⟨state, read, held.root?⟩

end Parley
