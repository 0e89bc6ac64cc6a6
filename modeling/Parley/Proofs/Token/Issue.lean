import Parley.Proofs.Json.Reading
import Parley.Proofs.Token.Acceptance
import Parley.Proofs.Uuid

/-!
# Tokens issued are tokens accepted

The token issued for a user gives that user access until it expires, and to nobody who cannot make
its signature (`issue_verify`).

Each layer reads back what it wrote: base64url the bytes, UTF-8 the characters, the JSON reader the
tree of the value, the two objects of a token their members, and the id its canonical form. What
the token issued for given claims is to any key follows (`signed_issueClaims_iff`).
-/

namespace Parley

/-! ### The two objects -/

/-- The header that tokens are issued with is read as one of their algorithm. -/
theorem TokenHeader.ofNode?_issued :
    TokenHeader.ofNode? TokenHeader.issued.toNode = some ⟨.hs256⟩ := by
  rfl

namespace Claims

/-- The members that claims are written as. -/
def members (c : Claims) : List (String × Node) :=
  [("user_id", .text (.ok c.user)), ("type", .text (.ok c.type.tag)),
    ("iat", .number ⟨false, c.issuedAt, none, none⟩),
    ("exp", .number ⟨false, c.expires, none, none⟩)]

/-- The node of written claims is an object of their members. -/
theorem toNode_toJson (c : Claims) : c.toJson.toNode = Node.ofMembers c.members := by
  simp [toJson, Json.integer, Json.toNode, Json.toMembers, Number.toNumeral, Node.ofMembers,
    members]

/-- The members of claims state them, if they have no audience and their times fit a word. -/
theorem stated_members {c : Claims} (noAudience : c.hasAudience = false)
    (issuedAt : c.issuedAt < Word.limit64) (expires : c.expires < Word.limit64) :
    c.Stated c.members := by
  constructor
  case once =>
    have keys : c.members.map Prod.fst = memberNames := rfl
    rw [Node.Once, keys]
    decide
  case user => simp [members]
  case type => exact ⟨.text (.ok c.type.tag), by simp [members], rfl⟩
  case issuedAt => exact ⟨.number ⟨false, c.issuedAt, none, none⟩, by simp [members], rfl⟩
  case issuedAt_lt => exact issuedAt
  case expires => exact ⟨.number ⟨false, c.expires, none, none⟩, by simp [members], rfl⟩
  case expires_lt => exact expires
  case admitted =>
    intro name node inside registered
    have own : name ∈ memberNames := List.mem_map_of_mem (f := Prod.fst) inside
    have apart : ∀ name ∈ registeredNames, name ∉ memberNames := by decide
    exact absurd own (apart name registered)
  case audience => simp [noAudience, members]

end Claims

namespace AccessTokens

open TokenParts (Carries)

/-- The written form of an object carries its members. -/
theorem carries_encodeJson {value : Json} {members : List (String × Node)}
    (object : value.toNode = Node.ofMembers members) : Carries (encodeJson value) members :=
  ⟨_, rfl, object ▸ Node.ofBytes?_encode_render value⟩

/-- An issued token is split into the parts that it was made from. -/
theorem ofChars?_issueClaims (tokens : AccessTokens) (claims : Claims) :
    TokenParts.ofChars? (tokens.issueClaims claims).toChars = some (tokens.issueClaims claims) :=
  TokenParts.ofChars?_eq_some_iff.mpr
    ⟨rfl, Base64.dot_notMem_urlEncode _, Base64.dot_notMem_urlEncode _⟩

/-- A token issued with one key is signed with another exactly if both keys give its message the
same digest. -/
theorem signed_issueClaims_iff {tokens other : AccessTokens} {claims : Claims} {p : TokenParts} :
    other.Signed (String.ofList (tokens.issueClaims claims).toChars) p
      ↔ p = tokens.issueClaims claims ∧ other.sign p.message = tokens.sign p.message := by
  constructor
  · intro signed
    have split : TokenParts.ofChars? (tokens.issueClaims claims).toChars = some p :=
      TokenParts.ofChars?_eq_some_iff.mpr
        ⟨by simpa using signed.whole, signed.claims_dotless, signed.signature_dotless⟩
    rw [ofChars?_issueClaims] at split
    obtain rfl := Option.some.inj split
    exact ⟨rfl, (Base64.urlEncode_injective signed.signature).symm⟩
  · rintro ⟨rfl, same⟩
    obtain ⟨members, object, names⟩ := TokenHeader.ofNode?_eq_some_iff.mp TokenHeader.ofNode?_issued
    constructor
    case whole => simp
    case claims_dotless => exact Base64.dot_notMem_urlEncode _
    case signature_dotless => exact Base64.dot_notMem_urlEncode _
    case header => exact ⟨members, carries_encodeJson object, names⟩
    case signature =>
      rw [← sign, same]
      rfl

/-- An issued token states the claims that it was issued with, and no others. -/
theorem states_issueClaims_iff {tokens : AccessTokens} {claims stated : Claims}
    (noAudience : claims.hasAudience = false) (issuedAt : claims.issuedAt < Word.limit64)
    (expires : claims.expires < Word.limit64) :
    (tokens.issueClaims claims).States stated ↔ stated = claims := by
  have own : (tokens.issueClaims claims).States claims :=
    ⟨claims.members, carries_encodeJson claims.toNode_toJson,
      Claims.stated_members noAudience issuedAt expires⟩
  constructor
  · intro other
    rw [← readClaims_eq_ok_iff] at own other
    exact Except.ok.inj (other.symm.trans own)
  · rintro rfl
    exact own

/-! ### Tokens issued -/

/-- The claims of a token issued at `now` for `ttl` seconds. -/
def issuedClaims (now ttl : Nat) (user : UserId) : Claims :=
  { user := user.text, type := .access, issuedAt := now, expires := now + ttl }

/-- An issued token is signed for every key that gives its message the same digest. -/
theorem signed_issue_iff {tokens other : AccessTokens} {now ttl : Nat} {user : UserId}
    {p : TokenParts} :
    other.Signed (tokens.issue now ttl user) p
      ↔ p = tokens.issueClaims (issuedClaims now ttl user)
        ∧ other.sign p.message = tokens.sign p.message :=
  signed_issueClaims_iff

/-- A token issued gives its user access under its own secret as long as it has not expired, and is
refused as expired at every later time. Under another secret it gives access, to the same user and
as long, exactly if both secrets give the first two parts of the token the same digest. -/
theorem issue_verify (secret : String) (user : UserId) (now ttl : Nat)
    (inside : now + ttl < Word.limit64) :
    ∃ p, TokenParts.ofChars? ((ofSecret secret).issue now ttl user).toList = some p ∧
      (∀ t, t ≤ now + ttl →
        (ofSecret secret).verify t ((ofSecret secret).issue now ttl user) = .ok user) ∧
      (∀ t, now + ttl < t →
        ∃ refusal,
          (ofSecret secret).verify t ((ofSecret secret).issue now ttl user) = .error refusal
          ∧ refusal.toFailure.cause = .auth .expired) ∧
      ∀ other t accepted,
        (ofSecret other).verify t ((ofSecret secret).issue now ttl user) = .ok accepted ↔
          accepted = user ∧ t ≤ now + ttl ∧
            Hmac.sign (Utf8.encode other.toList) (Utf8.encode p.message)
              = Hmac.sign (Utf8.encode secret.toList) (Utf8.encode p.message) := by
  have states : ∀ {claims},
      ((ofSecret secret).issueClaims (issuedClaims now ttl user)).States claims
        ↔ claims = issuedClaims now ttl user :=
    states_issueClaims_iff rfl (by simp only [issuedClaims]; omega) inside
  have accepts : ∀ other t accepted,
      (ofSecret other).verify t ((ofSecret secret).issue now ttl user) = .ok accepted ↔
        accepted = user ∧ t ≤ now + ttl ∧
          (ofSecret other).sign ((ofSecret secret).issueClaims (issuedClaims now ttl user)).message
            = (ofSecret secret).sign
                ((ofSecret secret).issueClaims (issuedClaims now ttl user)).message := by
    intro other t accepted
    simp only [verify_eq_ok_iff, open?_eq_ok_iff, signed_issue_iff]
    constructor
    · rintro ⟨claims, ⟨p, ⟨rfl, same⟩, stated, later, -⟩, -, named⟩
      obtain rfl := states.mp stated
      have self : accepted = user := by simpa [issuedClaims, eq_comm] using named
      exact ⟨self, later, same⟩
    · rintro ⟨rfl, later, same⟩
      exact ⟨_, ⟨_, ⟨rfl, same⟩, states.mpr rfl, later, rfl⟩, rfl, by simp [issuedClaims]⟩
  refine ⟨(ofSecret secret).issueClaims (issuedClaims now ttl user), ?_, ?_, ?_, accepts⟩
  · rw [issue, String.toList_ofList]
    exact ofChars?_issueClaims _ _
  · intro t early
    exact (accepts secret t user).mpr ⟨rfl, early, rfl⟩
  · intro t late
    rw [verify_expired_iff, open?_eq_expired_iff]
    exact ⟨_, _, signed_issue_iff.mpr ⟨rfl, rfl⟩, states.mpr rfl, late⟩

/-- A token whose last second is the last one that fits gives access in that second and not in the
next. -/
theorem issue_verify_last_second :
    (18446744073709551000 + 615 < Word.limit64) ∧
    (ofSecret "gut gehütet").verify (Word.limit64 - 1)
        ((ofSecret "gut gehütet").issue 18446744073709551000 615 ⟨0x0123456789abcdef⟩)
      = .ok ⟨0x0123456789abcdef⟩ ∧
    ∃ refusal, (ofSecret "gut gehütet").verify Word.limit64
        ((ofSecret "gut gehütet").issue 18446744073709551000 615 ⟨0x0123456789abcdef⟩)
      = .error refusal ∧ refusal.toFailure.cause = .auth .expired := by
  have inside : 18446744073709551000 + 615 < Word.limit64 := by decide
  obtain ⟨p, -, accepted, refused, -⟩ :=
    issue_verify "gut gehütet" ⟨0x0123456789abcdef⟩ 18446744073709551000 615 inside
  exact ⟨inside, accepted _ (by decide), refused _ (by decide)⟩

end AccessTokens

end Parley
