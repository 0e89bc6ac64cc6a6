import Parley.Proofs.Json.Record
import Parley.Token.Claims
import Parley.Token.Header

/-!
# What a token states

The two objects of a token in terms of their members. `TokenHeader.Names` says which members make
a header that names an algorithm, and `Claims.Stated` which members state given claims; each is
what is read (`TokenHeader.ofNode?_eq_some_iff`, `Claims.ofNode?_eq_some_iff`).
-/

namespace Parley

namespace TokenHeader

/-- Members that make a header which names an algorithm: no standard one stands twice, each has a
value it may have, and the value of `alg` is the name of the algorithm. -/
structure Names (algorithm : Algorithm) (members : List (String × Node)) : Prop where
  once : Node.Once standardMembers members
  admitted : ∀ name node, (name, node) ∈ members → admits name node
  named : ∃ node name, ("alg", node) ∈ members ∧ node.alternative? = some name
    ∧ (name, algorithm) ∈ Algorithm.names

/-- An algorithm is found under its own name. -/
theorem lookup_names_eq_some_iff {name : String} {algorithm : Algorithm} :
    Algorithm.names.lookup name = some algorithm ↔ (name, algorithm) ∈ Algorithm.names :=
  Node.lookup_eq_some_iff_mem (by decide)

/-- A header is read exactly from an object whose members name its algorithm. -/
theorem ofNode?_eq_some_iff {node : Node} {header : TokenHeader} :
    ofNode? node = some header
      ↔ ∃ members, node = Node.ofMembers members ∧ Names header.algorithm members := by
  have listed : "alg" ∈ standardMembers := by decide
  constructor
  · intro read
    simp only [ofNode?, Option.bind_eq_bind, Option.bind_eq_some_iff] at read
    obtain ⟨members, object, known, found, read⟩ := read
    split at read
    case isTrue => cases read
    case isFalse admitted =>
      obtain ⟨algorithm, required, made⟩ := Option.bind_eq_some_iff.mp read
      obtain rfl := Option.some.inj made
      obtain ⟨value, inside, named⟩ := (Node.require?_eq_some_iff found listed).mp required
      obtain ⟨name, alternative, algorithm_of⟩ := Option.bind_eq_some_iff.mp named
      refine ⟨members, Node.members?_eq_some_iff.mp object, ?_, ?_, value, name, inside,
        alternative, lookup_names_eq_some_iff.mp algorithm_of⟩
      · exact (Node.known?_eq_some_iff.mp found).2
      · intro key value inside
        have each := List.all_eq_true.mp (not_not.mp admitted)
        exact each (key, value) inside
  · rintro ⟨members, rfl, once, admitted, value, name, inside, alternative, algorithm_of⟩
    obtain ⟨known, found⟩ : ∃ known, Node.known? standardMembers members = some known :=
      ⟨_, Node.known?_eq_some_iff.mpr ⟨rfl, once⟩⟩
    have required := (Node.require?_eq_some_iff found listed
      (f := fun n => n.alternative?.bind fun name => Algorithm.names.lookup name)).mpr
      ⟨value, inside, Option.bind_eq_some_iff.mpr
        ⟨name, alternative, lookup_names_eq_some_iff.mpr algorithm_of⟩⟩
    have each : ∀ member ∈ members, admits member.1 member.2 = true := fun member inside =>
      admitted member.1 member.2 inside
    simp only [ofNode?, Node.members?_ofMembers, Option.bind_eq_bind, Option.bind_some, found,
      required]
    rw [if_neg (not_not.mpr (List.all_eq_true.mpr each))]
    rfl

end TokenHeader

/-- A type is known by its tag alone. -/
theorem TokenType.ofTag?_eq_some_iff {tag : String} {type : TokenType} :
    TokenType.ofTag? tag = some type ↔ tag = type.tag := by
  constructor
  · intro read
    unfold TokenType.ofTag? at read
    split at read
    case isTrue access =>
      obtain rfl := Option.some.inj read
      exact access
    case isFalse =>
      split at read
      case isTrue refresh =>
        obtain rfl := Option.some.inj read
        exact refresh
      case isFalse => cases read
  · rintro rfl
    cases type <;> decide

namespace Claims

/-- Members that state claims: none that is known stands twice, the four of the claims have their
values, seconds within 64 bits, registered ones have values they may have, and `hasAudience` says
whether one of them names an audience. -/
structure Stated (c : Claims) (members : List (String × Node)) : Prop where
  once : Node.Once (memberNames ++ registeredNames) members
  user : ("user_id", .text (.ok c.user)) ∈ members
  type : ∃ node, ("type", node) ∈ members ∧ node.alternative? = some c.type.tag
  issuedAt : ∃ node, ("iat", node) ∈ members ∧ node.integer? = some (c.issuedAt : Int)
  issuedAt_lt : c.issuedAt < Word.limit64
  expires : ∃ node, ("exp", node) ∈ members ∧ node.integer? = some (c.expires : Int)
  expires_lt : c.expires < Word.limit64
  admitted : ∀ name node, (name, node) ∈ members → name ∈ registeredNames → admits name node
  audience : c.hasAudience ↔ ∃ node, ("aud", node) ∈ members ∧ isAudience node

/-- A time is read off an integer that fits an unsigned word. -/
theorem seconds?_eq_some_iff {node : Node} {n : Nat} :
    seconds? node = some n ↔ node.integer? = some (n : Int) ∧ n < Word.limit64 := by
  simp only [seconds?, Option.bind_eq_bind, Option.bind_eq_some_iff]
  constructor
  · rintro ⟨value, integer, read⟩
    split at read
    case isFalse => cases read
    case isTrue range =>
      obtain rfl := Option.some.inj read
      simp only [Word.isUnsigned64, decide_eq_true_eq] at range
      rw [Int.toNat_of_nonneg range.1]
      exact ⟨integer, by omega⟩
  · rintro ⟨integer, small⟩
    have range : Word.isUnsigned64 n := by
      simp only [Word.isUnsigned64, decide_eq_true_eq]
      omega
    exact ⟨n, integer, by simp [range]⟩

/-- Claims that are read are stated by the members of an object. -/
theorem stated_of_ofNode? {node : Node} {c : Claims} (read : ofNode? node = some c) :
    ∃ members, node = Node.ofMembers members ∧ c.Stated members := by
  have apart : ∀ name ∈ registeredNames, name ∉ memberNames := by decide
  simp only [ofNode?, Option.bind_eq_bind, Option.bind_eq_some_iff] at read
  obtain ⟨members, object, known, found, user, readUser, type, readType, issuedAt, readIssuedAt,
    expires, readExpires, read⟩ := read
  split at read
  case isTrue => cases read
  case isFalse admitted =>
    obtain rfl := Option.some.inj read
    obtain ⟨userNode, userIn, userText⟩ :=
      (Node.require?_eq_some_iff found (by decide)).mp readUser
    obtain ⟨typeNode, typeIn, typed⟩ := (Node.require?_eq_some_iff found (by decide)).mp readType
    obtain ⟨tag, alternative, tagged⟩ := Option.bind_eq_some_iff.mp typed
    obtain ⟨iat, iatIn, iatSeconds⟩ := (Node.require?_eq_some_iff found (by decide)).mp readIssuedAt
    obtain ⟨exp, expIn, expSeconds⟩ := (Node.require?_eq_some_iff found (by decide)).mp readExpires
    refine ⟨members, Node.members?_eq_some_iff.mp object, ?_⟩
    constructor
    case once => exact (Node.known?_eq_some_iff.mp found).2
    case user => exact Node.text?_eq_some_iff.mp userText ▸ userIn
    case type => exact ⟨typeNode, typeIn, TokenType.ofTag?_eq_some_iff.mp tagged ▸ alternative⟩
    case issuedAt => exact ⟨iat, iatIn, (seconds?_eq_some_iff.mp iatSeconds).1⟩
    case issuedAt_lt => exact (seconds?_eq_some_iff.mp iatSeconds).2
    case expires => exact ⟨exp, expIn, (seconds?_eq_some_iff.mp expSeconds).1⟩
    case expires_lt => exact (seconds?_eq_some_iff.mp expSeconds).2
    case admitted =>
      intro name node inside listed
      have kept := (Node.mem_known_iff found).mpr ⟨inside, List.mem_append_right _ listed⟩
      have each := List.all_eq_true.mp (not_not.mp admitted) (name, node) kept
      simpa [apart name listed] using each
    case audience =>
      simp [Option.any_eq_true, Node.lookup_known_eq_some_iff found (by decide : "aud" ∈ _)]

/-- Claims that are stated by members are read. -/
theorem ofNode?_of_stated {c : Claims} {members : List (String × Node)}
    (stated : c.Stated members) : ofNode? (Node.ofMembers members) = some c := by
  obtain ⟨known, found⟩ : ∃ known,
      Node.known? (memberNames ++ registeredNames) members = some known :=
    ⟨_, Node.known?_eq_some_iff.mpr ⟨rfl, stated.once⟩⟩
  obtain ⟨typeNode, typeIn, alternative⟩ := stated.type
  obtain ⟨iat, iatIn, iatInteger⟩ := stated.issuedAt
  obtain ⟨exp, expIn, expInteger⟩ := stated.expires
  have user := (Node.require?_eq_some_iff found (by decide)).mpr
    ⟨_, stated.user, Node.text?_eq_some_iff.mpr rfl⟩
  have type := (Node.require?_eq_some_iff found (by decide)
    (f := fun n => n.alternative?.bind TokenType.ofTag?)).mpr
    ⟨typeNode, typeIn, Option.bind_eq_some_iff.mpr
      ⟨_, alternative, TokenType.ofTag?_eq_some_iff.mpr rfl⟩⟩
  have issuedAt := (Node.require?_eq_some_iff found (by decide)).mpr
    ⟨iat, iatIn, seconds?_eq_some_iff.mpr ⟨iatInteger, stated.issuedAt_lt⟩⟩
  have expires := (Node.require?_eq_some_iff found (by decide)).mpr
    ⟨exp, expIn, seconds?_eq_some_iff.mpr ⟨expInteger, stated.expires_lt⟩⟩
  have admitted : ∀ member ∈ known,
      (decide (member.1 ∈ memberNames) || admits member.1 member.2) = true := by
    rintro ⟨name, value⟩ kept
    obtain ⟨inside, listed⟩ := (Node.mem_known_iff found).mp kept
    rcases List.mem_append.mp listed with own | registered
    · simp [own]
    · simp [stated.admitted name value inside registered]
  have audience : (known.lookup "aud").any isAudience = c.hasAudience := by
    rw [Bool.eq_iff_iff, stated.audience, Option.any_eq_true]
    simp only [Node.lookup_known_eq_some_iff found (by decide : "aud" ∈ _)]
  simp only [ofNode?, Node.members?_ofMembers, Option.bind_eq_bind, Option.bind_some, found, user,
    type, issuedAt, expires, audience]
  rw [if_neg (not_not.mpr (List.all_eq_true.mpr admitted))]
  rfl

/-- Claims are read exactly from an object whose members state them. -/
theorem ofNode?_eq_some_iff {node : Node} {c : Claims} :
    ofNode? node = some c ↔ ∃ members, node = Node.ofMembers members ∧ c.Stated members := by
  constructor
  · exact stated_of_ofNode?
  · rintro ⟨members, rfl, stated⟩
    exact ofNode?_of_stated stated

end Claims

end Parley
