import Mathlib.Data.List.TakeWhile
import Parley.Proofs.Web.Form
import Parley.Web.Authentication

/-!
# The token of a request

`Request.Presents` says which token a request presents, by the values that its query has under the
name `token` and the characters of its authorization header. There is at most one, and it is the one
that a verifier is asked about (`authenticate_of_presents`); without one no verifier is asked
(`authenticate_of_none`).

A token that is written into a query in any form, among any other fields, is the one presented
(`presents_of_target`).
-/

namespace Parley.Web.Request

/-- The values of all fields of the query that are named `token`. -/
def tokenFields (r : Request) : List String :=
  ((Form.fields r.query).filter (·.1 = "token")).map Prod.snd

/-- Whether a character may stand in a header that is read as text. -/
def isVisible (c : Char) : Bool :=
  decide (' ' ≤ c ∧ c ≤ '~') || c = '\t'

/-- The token of a request: the value of the one field of that name in its query, if there is one
and it is not empty; or else what its authorization header bears, if that is text. -/
inductive Presents (r : Request) (token : String) : Prop
  | query (some_character : token ≠ "") (only : r.tokenFields = [token])
  | bearer (some_character : token ≠ "") (no_field : ∀ value, r.tokenFields = [value] → value = "")
      (visible : ∀ c ∈ token.toList, isVisible c = true)
      (header : r.header? "authorization" = some (Utf8.encode ("Bearer " ++ token).toList))

/-! ### The query -/

/-- A query presents the token of its one field, unless that is empty. -/
theorem queryToken?_eq_some {r : Request} {token : String} :
    r.queryToken? = some token ↔ r.tokenFields = [token] ∧ token ≠ "" := by
  unfold queryToken? tokenFields
  rw [Option.filter_eq_some_iff, Form.only?_eq_some, decide_eq_true_eq]

/-- A query presents no token if it has no such field, an empty one, or more than one. -/
theorem queryToken?_eq_none {r : Request} :
    r.queryToken? = none ↔ ∀ value, r.tokenFields = [value] → value = "" := by
  rw [Option.eq_none_iff_forall_ne_some]
  refine forall_congr' fun value => ?_
  rw [ne_eq, queryToken?_eq_some, not_and, not_not]

/-! ### The header -/

/-- The characters that a header may show are those of printable ASCII and the tab. -/
theorem isVisible_iff {c : Char} :
    isVisible c = true ↔ (32 ≤ c.toNat ∧ c.toNat < 127) ∨ c.toNat = 9 := by
  unfold isVisible
  rw [Bool.or_eq_true, decide_eq_true_eq, decide_eq_true_eq, Char.le_def, Char.le_def,
    UInt32.le_iff_toNat_le, UInt32.le_iff_toNat_le, ← Char.toNat_inj]
  change (32 ≤ c.toNat ∧ c.toNat ≤ 126) ∨ c.toNat = 9 ↔ _
  omega

/-- A header value is read as text if it is the bytes of that text, all of them visible. -/
theorem visible?_eq_some {value : List UInt8} {text : List Char} :
    visible? value = some text ↔
      value = Utf8.encode text ∧ ∀ c ∈ text, isVisible c = true := by
  unfold visible?
  rw [Option.ite_none_right_eq_some, List.all_eq_true, Option.some_inj]
  simp only [Bool.or_eq_true, Bool.and_eq_true, decide_eq_true_eq, isVisible_iff]
  constructor
  · rintro ⟨visible, rfl⟩
    have code : ∀ b ∈ value, (Char.ofNat b.toNat).toNat = b.toNat := by
      intro b hb
      have small := visible b hb
      exact Utf8.toNat_char (by omega)
    have visible' : ∀ c ∈ value.map fun b => Char.ofNat b.toNat,
        (32 ≤ c.toNat ∧ c.toNat < 127) ∨ c.toNat = 9 := by
      intro c hc
      obtain ⟨b, hb, rfl⟩ := List.mem_map.mp hc
      rw [code b hb]
      exact visible b hb
    refine ⟨?_, visible'⟩
    have back : value.map (fun b => UInt8.ofNat (Char.ofNat b.toNat).toNat) = value.map id :=
      List.map_congr_left fun b hb => by rw [code b hb, UInt8.ofNat_toNat, id]
    rw [Utf8.encode_ascii fun c hc => by have := visible' c hc; omega, List.map_map]
    exact (back.trans (List.map_id value)).symm
  · rintro ⟨rfl, visible⟩
    rw [Utf8.encode_ascii fun c hc => by have := visible c hc; omega]
    have code : ∀ c ∈ text, (UInt8.ofNat c.toNat).toNat = c.toNat := by
      intro c hc
      have small := visible c hc
      exact UInt8.toNat_ofNat_of_lt' (show _ < 256 by omega)
    refine ⟨fun b hb => ?_, ?_⟩
    · obtain ⟨c, hc, rfl⟩ := List.mem_map.mp hb
      rw [code c hc]
      exact visible c hc
    · have back : text.map (fun c => Char.ofNat (UInt8.ofNat c.toNat).toNat) = text.map id :=
        List.map_congr_left fun c hc => by rw [code c hc, Char.ofNat_toNat, id]
      rw [List.map_map]
      exact back.trans (List.map_id text)

/-- A token stands after the scheme and one space. -/
theorem afterBearer?_eq_some {text token : List Char} :
    afterBearer? text = some token ↔ text = "Bearer ".toList ++ token := by
  change _ ↔ text = 'B' :: 'e' :: 'a' :: 'r' :: 'e' :: 'r' :: ' ' :: token
  unfold afterBearer?
  split <;> simp_all

/-- A header presents the visible text after the scheme, unless that is empty. -/
theorem bearerToken?_eq_some {r : Request} {token : String} :
    r.bearerToken? = some token ↔ token ≠ "" ∧ (∀ c ∈ token.toList, isVisible c = true) ∧
      r.header? "authorization" = some (Utf8.encode ("Bearer " ++ token).toList) := by
  have word : ∀ c ∈ "Bearer ".toList, isVisible c = true :=
    List.all_eq_true.mp (by decide)
  unfold bearerToken?
  simp only [Option.bind_eq_bind, Option.bind_eq_some_iff, Option.ite_none_left_eq_some,
    Option.some_inj]
  constructor
  · rintro ⟨value, header, text, read, chars, rest, nonempty, rfl⟩
    obtain ⟨rfl, visible⟩ := visible?_eq_some.mp read
    obtain rfl := afterBearer?_eq_some.mp rest
    rw [String.toList_append, String.toList_ofList]
    refine ⟨fun nothing => nonempty ?_, (List.forall_mem_append.mp visible).2, header⟩
    exact String.ofList_eq_empty_iff.mp nothing
  · rintro ⟨some_character, visible, header⟩
    rw [String.toList_append] at header
    refine ⟨_, header, _, visible?_eq_some.mpr ⟨rfl, ?_⟩, token.toList,
      afterBearer?_eq_some.mpr rfl, ?_, String.ofList_toList⟩
    · exact List.forall_mem_append.mpr ⟨word, visible⟩
    · exact String.toList_eq_nil_iff.not.mpr some_character

/-! ### The one token -/

/-- The token of a request is the one that it presents. -/
theorem token?_eq_some {r : Request} {token : String} :
    r.token? = some token ↔ r.Presents token := by
  unfold token?
  rw [Option.or_eq_some_iff, queryToken?_eq_some, queryToken?_eq_none, bearerToken?_eq_some]
  constructor
  · rintro (⟨only, some_character⟩ | ⟨no_field, some_character, visible, header⟩)
    · exact .query some_character only
    · exact .bearer some_character no_field visible header
  · intro presents
    cases presents with
    | query some_character only => exact .inl ⟨only, some_character⟩
    | bearer some_character no_field visible header =>
      exact .inr ⟨no_field, some_character, visible, header⟩

/-- A request presents one token at most. -/
theorem Presents.unique {r : Request} {token other : String} (first : r.Presents token)
    (second : r.Presents other) : token = other :=
  Option.some_inj.mp ((token?_eq_some.mpr first).symm.trans (token?_eq_some.mpr second))

/-- A request is checked by the token that it presents. -/
theorem authenticate_of_presents {r : Request} {token : String} (presents : r.Presents token)
    (verify : Verifier) : r.authenticate verify = verify token := by
  rw [authenticate, token?_eq_some.mpr presents]

/-- A request that presents no token is refused for that. -/
theorem authenticate_of_none {r : Request} (nothing : ∀ token, ¬r.Presents token)
    (verify : Verifier) : r.authenticate verify = .error { failure := .auth .missingToken } := by
  have none : r.token? = none :=
    Option.eq_none_iff_forall_ne_some.mpr fun token found => nothing token (token?_eq_some.mp found)
  rw [authenticate, none]

/-! ### A token written into the query -/

/-- A path and a query in a target: whatever else stands there, `#` does not, and the first `?` is
the one between them. -/
theorem path_and_query {r : Request} (path : List Char) {query : List Char}
    (begins : path.head? = some '/') (path_chars : '#' ∉ path ∧ '?' ∉ path)
    (query_chars : '#' ∉ query) (target : r.target.toList = path ++ '?' :: query) :
    r.path = String.ofList path ∧ r.query = Utf8.encode query := by
  have whole : (path ++ '?' :: query).takeWhile (· ≠ '#') = path ++ '?' :: query := by
    rw [List.takeWhile_eq_self_iff]
    intro c hc
    rw [decide_eq_true_eq]
    rintro rfl
    rcases List.mem_append.mp hc with in_path | later
    · exact path_chars.1 in_path
    · exact query_chars (List.mem_of_ne_of_mem (by decide) later)
  have resource : r.resource = path ++ '?' :: query := by
    unfold resource
    rw [target, whole]
    cases path with
    | nil => cases begins
    | cons c rest =>
      obtain rfl := Option.some_inj.mp begins
      rfl
  rw [Request.path, Request.query, resource, Separator.takeWhile_ne path_chars.2,
    Separator.dropWhile_ne path_chars.2]
  exact ⟨rfl, rfl⟩

/-- **A token in the query arrives.** Whichever form it is written in, and whichever fields of other
names stand before and after it. -/
theorem presents_of_target {r : Request} {token : String} {written : List Char}
    {before after : List (List Char)} (some_character : token ≠ "")
    (spells : Form.Spells written (Utf8.encode token.toList))
    (others : ∀ f ∈ before ++ after,
      '&' ∉ f ∧ '#' ∉ f ∧ (Form.field (Utf8.encode f)).1 ≠ "token")
    (target : r.target = "/ws?" ++ String.ofList
      (['&'].intercalate (before ++ ("token=".toList ++ written) :: after))) :
    r.Presents token := by
  have own : Form.field (Utf8.encode ("token=".toList ++ written)) = ("token", token) := by
    have name : Form.Spells "token".toList (Utf8.encode "token".toList) :=
      Form.spells_plain (List.all_eq_true.mp (by decide))
    have joined : "token=".toList ++ written = "token".toList ++ '=' :: written := rfl
    rw [joined]
    exact Form.field_of_spells name spells
  have apart : ∀ c : Char, c = '&' ∨ c = '#' →
      ∀ f ∈ before ++ ("token=".toList ++ written) :: after, c ∉ f := by
    intro c hc f hf
    have mem : f ∈ before ++ after ∨ f = "token=".toList ++ written := by
      rw [List.mem_append, List.mem_cons] at hf
      rw [List.mem_append]
      tauto
    rcases mem with other | rfl
    · rcases hc with rfl | rfl
      · exact (others f other).1
      · exact (others f other).2.1
    · have not_name : c ∉ "token=".toList := by
        rcases hc with rfl | rfl <;> decide
      have not_value : c ∉ written := spells.not_mem (by rcases hc with rfl | rfl <;> decide)
      exact List.not_mem_append not_name not_value
  have query : r.query = Utf8.encode
      (['&'].intercalate (before ++ ("token=".toList ++ written) :: after)) := by
    have other_sign : '#' ≠ '&' := by decide
    have no_fragment := Separator.not_mem_intercalate other_sign (apart '#' (.inr rfl))
    refine (path_and_query "/ws".toList rfl (by decide) no_fragment ?_).2
    rw [target, String.toList_append, String.toList_ofList, String.toList_ofList]
    rfl
  refine .query some_character ?_
  rw [tokenFields, query]
  exact Form.values_of_only own (by simp) (fun f hf => (others f hf).2.2) (apart '&' (.inl rfl))

end Parley.Web.Request
