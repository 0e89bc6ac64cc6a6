import Parley.Proofs.Text.Base64
import Parley.Proofs.Token.Parts
import Parley.Proofs.Token.Statement

/-!
# Which tokens give access

A text gives a user access exactly if it is a signed token whose claims are in force and name the
user (`verify_exact`). The check falls into two halves (`open?_eq_bind`): `signed?` looks at the
header and the signature, and only what it lets through has its claims read. So an expired token
and a token of the wrong type are reported as such only to a holder of a signed one, and whatever
is put in the place of the claims of an unsigned token changes nothing (`signed?_of_unsigned`).
-/

namespace Parley

namespace TokenParts

/-- A part of a token is the base64url form of JSON text that says an object of the members. -/
def Carries (part : List Char) (members : List (String × Node)) : Prop :=
  ∃ bytes, part = Base64.urlEncode bytes ∧ Node.ofBytes? bytes = some (Node.ofMembers members)

/-- The claims that a token's second part states. -/
def States (p : TokenParts) (claims : Claims) : Prop :=
  ∃ members, Carries p.claims members ∧ claims.Stated members

end TokenParts

namespace AccessTokens

open TokenParts (Carries)

/-- A text is a token signed with the key: divided at its last two dots, it has a header that names
the algorithm, and its signature is the keyed digest of all before it. -/
structure Signed (tokens : AccessTokens) (token : String) (p : TokenParts) : Prop where
  whole : token.toList = p.toChars
  claims_dotless : '.' ∉ p.claims
  signature_dotless : '.' ∉ p.signature
  header : ∃ members, Carries p.header members ∧ TokenHeader.Names .hs256 members
  signature : p.signature = Base64.urlEncode (Hmac.sign tokens.key (Utf8.encode p.message))

/-! ### Reading a part -/

/-- After a step that succeeds comes the next. -/
theorem ok_bind {α β : Type} (a : α) (f : α → Except TokenFault β) :
    (Except.ok a : Except TokenFault α) >>= f = f a := rfl

/-- A step that fails is the last. -/
theorem error_bind {α β : Type} (fault : TokenFault) (f : α → Except TokenFault β) :
    (Except.error fault : Except TokenFault α) >>= f = .error fault := rfl

/-- Two steps succeed if both of them do. -/
theorem bind_eq_ok_iff {α β : Type} {x : Except TokenFault α} {f : α → Except TokenFault β}
    {b : β} : x >>= f = .ok b ↔ ∃ a, x = .ok a ∧ f a = .ok b := by
  cases x <;> simp [bind, Except.bind]

/-- A value that is there is taken. -/
theorem orFault_eq_ok_iff {α : Type} {fault : TokenFault} {value : Option α} {a : α} :
    orFault fault value = .ok a ↔ value = some a := by
  cases value <;> simp [orFault]

/-- Two steps fail if the first does, or the second after it. -/
theorem bind_eq_error_iff {α β : Type} {x : Except TokenFault α} {f : α → Except TokenFault β}
    {fault : TokenFault} :
    x >>= f = .error fault ↔ x = .error fault ∨ ∃ a, x = .ok a ∧ f a = .error fault := by
  cases x <;> simp [bind, Except.bind]

/-- A value that is not there is the given fault. -/
theorem orFault_eq_error_iff {α : Type} {fault found : TokenFault} {value : Option α} :
    orFault fault value = .error found ↔ value = none ∧ fault = found := by
  cases value <;> simp [orFault]

/-- A header is read from a part that carries members naming its algorithm. -/
theorem readHeader_eq_ok_iff {part : List Char} {header : TokenHeader} :
    readHeader part = .ok header
      ↔ ∃ members, Carries part members ∧ TokenHeader.Names header.algorithm members := by
  simp only [readHeader, bind_eq_ok_iff, orFault_eq_ok_iff, Base64.urlDecode?_eq_some_iff,
    Option.bind_eq_some_iff, TokenHeader.ofNode?_eq_some_iff]
  constructor
  · rintro ⟨bytes, rfl, node, read, members, rfl, named⟩
    exact ⟨members, ⟨bytes, rfl, read⟩, named⟩
  · rintro ⟨members, ⟨bytes, rfl, read⟩, named⟩
    exact ⟨bytes, rfl, _, read, members, rfl, named⟩

/-- Claims are read from a part that states them. -/
theorem readClaims_eq_ok_iff {p : TokenParts} {claims : Claims} :
    readClaims p.claims = .ok claims ↔ p.States claims := by
  simp only [readClaims, bind_eq_ok_iff, orFault_eq_ok_iff, Base64.urlDecode?_eq_some_iff,
    Option.bind_eq_some_iff, Claims.ofNode?_eq_some_iff]
  constructor
  · rintro ⟨bytes, part, node, read, members, rfl, stated⟩
    exact ⟨members, ⟨bytes, part, read⟩, stated⟩
  · rintro ⟨members, ⟨bytes, part, read⟩, stated⟩
    exact ⟨bytes, part, _, read, members, rfl, stated⟩

/-- What can be wrong with a part of a token as such, whatever is to be read from it. -/
theorem fault_of_part {α : Type} {f : Node → Option α} {part : List Char} {fault : TokenFault}
    (failed : (do
      let bytes ← orFault .base64 (Base64.urlDecode? part)
      orFault .json ((Node.ofBytes? bytes).bind f)) = .error fault) :
    fault = .base64 ∨ fault = .json := by
  simp only [bind_eq_error_iff, orFault_eq_error_iff] at failed
  rcases failed with ⟨-, rfl⟩ | ⟨-, -, -, rfl⟩
  · exact .inl rfl
  · exact .inr rfl

/-! ### The two halves of the check -/

/-- The parts of a token whose signature has matched. -/
def signed? (tokens : AccessTokens) (token : String) : Except TokenFault TokenParts := do
  let parts ← orFault .parts (TokenParts.ofChars? token.toList)
  let header ← readHeader parts.header
  if header.algorithm ≠ .hs256 then throw .algorithm
  let signature ← orFault .base64 (Base64.urlDecode? parts.signature)
  if signature ≠ tokens.sign parts.message then throw .signature
  pure parts

/-- The claims of a token that are in force. -/
def inForce? (now : Nat) (p : TokenParts) : Except TokenFault Claims := do
  let claims ← readClaims p.claims
  if claims.expires < now then throw .expired
  if claims.hasAudience then throw .audience
  pure claims

/-- The check of a token falls into two halves. -/
theorem open?_eq_bind (tokens : AccessTokens) (now : Nat) (token : String) :
    tokens.open? now token = tokens.signed? token >>= inForce? now := by
  simp only [open?, signed?, bind_assoc]
  congr 1
  funext parts
  congr 1
  funext header
  split
  · rfl
  · rw [bind_assoc]
    congr 1
    funext signature
    split <;> rfl

/-! ### Signed tokens -/

/-- The first half of the check lets exactly the signed tokens through. -/
theorem signed?_eq_ok_iff {tokens : AccessTokens} {token : String} {p : TokenParts} :
    tokens.signed? token = .ok p ↔ tokens.Signed token p := by
  simp only [signed?, bind_eq_ok_iff, orFault_eq_ok_iff, TokenParts.ofChars?_eq_some_iff,
    readHeader_eq_ok_iff]
  constructor
  · rintro ⟨parts, ⟨whole, claims, signature⟩, header, ⟨members, carries, names⟩, checked⟩
    split at checked
    case isTrue => cases checked
    case isFalse hs256 =>
      obtain ⟨digest, decoded, checked⟩ := bind_eq_ok_iff.mp checked
      split at checked
      case isTrue => cases checked
      case isFalse matched =>
        obtain rfl := Except.ok.inj checked
        refine ⟨whole, claims, signature, ⟨members, carries, not_not.mp hs256 ▸ names⟩, ?_⟩
        rw [Base64.urlDecode?_eq_some_iff.mp (orFault_eq_ok_iff.mp decoded), not_not.mp matched]
        rfl
  · intro signed
    obtain ⟨members, carries, names⟩ := signed.header
    refine ⟨p, ⟨signed.whole, signed.claims_dotless, signed.signature_dotless⟩, ⟨.hs256⟩,
      ⟨members, carries, names⟩, ?_⟩
    have decoded := Base64.urlDecode?_eq_some_iff.mpr signed.signature
    simp [decoded, orFault, sign, ok_bind]
    rfl

/-- What can be wrong with a token before its claims are looked at. -/
theorem fault_of_signed? {tokens : AccessTokens} {token : String} {fault : TokenFault}
    (failed : tokens.signed? token = .error fault) :
    fault ∈ [.parts, .base64, .json, .algorithm, .signature] := by
  simp only [signed?, bind_eq_error_iff, orFault_eq_error_iff] at failed
  obtain ⟨-, rfl⟩ | ⟨p, -, malformed | ⟨header, -, checked⟩⟩ := failed
  · simp
  · rcases fault_of_part malformed with rfl | rfl <;> simp
  · split at checked
    case isTrue =>
      cases checked
      simp
    case isFalse =>
      obtain undecoded | ⟨digest, -, compared⟩ := bind_eq_error_iff.mp checked
      · obtain ⟨-, rfl⟩ := orFault_eq_error_iff.mp undecoded
        simp
      · split at compared <;> cases compared
        simp

/-- An unsigned token is never found to have expired. -/
theorem signed?_ne_expired (tokens : AccessTokens) (token : String) :
    tokens.signed? token ≠ .error .expired := fun expired =>
  absurd (fault_of_signed? expired) (by decide)

/-- What a token without its signature is refused for: this depends on its header and on what
stands for the signature. -/
def unsignedFault (header signature : List Char) : TokenFault :=
  match readHeader header with
  | .error fault => fault
  | .ok header =>
    if header.algorithm ≠ .hs256 then .algorithm
    else if Base64.urlDecode? signature = none then .base64
    else .signature

/-- An unsigned token is refused without a look at its claims. -/
theorem signed?_of_unsigned (tokens : AccessTokens) {p : TokenParts} (claims : '.' ∉ p.claims)
    (signature : '.' ∉ p.signature)
    (unsigned : p.signature ≠ Base64.urlEncode (tokens.sign p.message)) :
    tokens.signed? (String.ofList p.toChars) = .error (unsignedFault p.header p.signature) := by
  have parts : TokenParts.ofChars? (String.ofList p.toChars).toList = some p :=
    TokenParts.ofChars?_eq_some_iff.mpr ⟨by simp, claims, signature⟩
  simp only [signed?, parts, orFault, Option.elim, ok_bind, unsignedFault]
  cases readHeader p.header with
  | error fault => rfl
  | ok header =>
    by_cases hs256 : header.algorithm = .hs256
    · cases decoded : Base64.urlDecode? p.signature with
      | none =>
        simp [ok_bind, hs256]
        rfl
      | some digest =>
        have differs : digest ≠ tokens.sign p.message := by
          rintro rfl
          exact unsigned (Base64.urlDecode?_eq_some_iff.mp decoded)
        simp [ok_bind, hs256, differs]
        rfl
    · simp [ok_bind, hs256]
      rfl

/-! ### Claims in force -/

/-- The second half of the check lets exactly the claims in force through. -/
theorem inForce?_eq_ok_iff {now : Nat} {p : TokenParts} {claims : Claims} :
    inForce? now p = .ok claims
      ↔ p.States claims ∧ now ≤ claims.expires ∧ claims.hasAudience = false := by
  simp only [inForce?, bind_eq_ok_iff, readClaims_eq_ok_iff]
  constructor
  · rintro ⟨read, stated, checked⟩
    split at checked
    case isTrue => cases checked
    case isFalse later =>
      split at checked
      case isTrue => cases checked
      case isFalse audience =>
        obtain rfl := Except.ok.inj checked
        exact ⟨stated, Nat.not_lt.mp later, by simpa using audience⟩
  · rintro ⟨stated, later, audience⟩
    refine ⟨claims, stated, ?_⟩
    simp [Nat.not_lt.mpr later, audience]
    rfl

/-- What can be wrong with the claims of a signed token. -/
theorem fault_of_inForce? {now : Nat} {p : TokenParts} {fault : TokenFault}
    (failed : inForce? now p = .error fault) : fault ∈ [.base64, .json, .expired, .audience] := by
  simp only [inForce?, bind_eq_error_iff] at failed
  obtain malformed | ⟨claims, -, checked⟩ := failed
  · rcases fault_of_part malformed with rfl | rfl <;> simp
  · split at checked
    case isTrue =>
      cases checked
      simp
    case isFalse =>
      split at checked <;> cases checked
      simp

/-- The claims of a signed token have expired if their last second has passed. -/
theorem inForce?_eq_expired_iff {now : Nat} {p : TokenParts} :
    inForce? now p = .error .expired ↔ ∃ claims, p.States claims ∧ claims.expires < now := by
  have well_formed : readClaims p.claims ≠ .error .expired := fun expired =>
    absurd (fault_of_part expired) (by decide)
  simp only [inForce?, bind_eq_error_iff, well_formed, readClaims_eq_ok_iff, false_or]
  constructor
  · rintro ⟨claims, stated, checked⟩
    split at checked
    case isTrue earlier => exact ⟨claims, stated, earlier⟩
    case isFalse => split at checked <;> cases checked
  · rintro ⟨claims, stated, earlier⟩
    refine ⟨claims, stated, ?_⟩
    simp [earlier]
    rfl

/-- Claims are found in a token that is signed and states them, in force. -/
theorem open?_eq_ok_iff {tokens : AccessTokens} {now : Nat} {token : String} {claims : Claims} :
    tokens.open? now token = .ok claims ↔ ∃ p, tokens.Signed token p ∧ p.States claims
      ∧ now ≤ claims.expires ∧ claims.hasAudience = false := by
  simp only [open?_eq_bind, bind_eq_ok_iff, signed?_eq_ok_iff, inForce?_eq_ok_iff]

/-- A token is found to have expired if it is signed and its claims have. -/
theorem open?_eq_expired_iff {tokens : AccessTokens} {now : Nat} {token : String} :
    tokens.open? now token = .error .expired
      ↔ ∃ p claims, tokens.Signed token p ∧ p.States claims ∧ claims.expires < now := by
  simp only [open?_eq_bind, bind_eq_error_iff, signed?_ne_expired, signed?_eq_ok_iff,
    inForce?_eq_expired_iff, false_or, exists_and_left]

/-- No token is found to be not in force yet. -/
theorem open?_ne_immature (tokens : AccessTokens) (now : Nat) (token : String) :
    tokens.open? now token ≠ .error .immature := by
  intro immature
  rw [open?_eq_bind, bind_eq_error_iff] at immature
  obtain unsigned | ⟨p, -, checked⟩ := immature
  · exact absurd (fault_of_signed? unsigned) (by decide)
  · exact absurd (fault_of_inForce? checked) (by decide)

/-! ### Access -/

/-- A token gives access to the user that its claims in force name for access. -/
theorem verify_eq_ok_iff {tokens : AccessTokens} {now : Nat} {token : String} {user : UserId} :
    tokens.verify now token = .ok user ↔ ∃ claims, tokens.open? now token = .ok claims
      ∧ claims.type = .access ∧ Uuid.parse? claims.user = some user := by
  unfold verify
  cases tokens.open? now token with
  | error fault => simp
  | ok claims =>
    cases type : claims.type with
    | refresh => simp [type]
    | access => cases named : Uuid.parse? claims.user <;> simp [type, named]

/-- A refusal is reported as expired exactly if the token is signed and its claims have expired. -/
theorem verify_expired_iff {tokens : AccessTokens} {now : Nat} {token : String} :
    (∃ refusal, tokens.verify now token = .error refusal ∧ refusal.toFailure.cause = .auth .expired)
      ↔ tokens.open? now token = .error .expired := by
  unfold verify
  cases tokens.open? now token with
  | error fault =>
    cases fault <;> simp [Refusal.toFailure, TokenFault.toFailure]
  | ok claims =>
    cases type : claims.type with
    | refresh => simp [type, Refusal.toFailure, Failure.auth]
    | access =>
      cases named : Uuid.parse? claims.user <;> simp [type, named, Refusal.toFailure, Failure.auth]

/-- A refusal is reported as of the wrong type exactly if the claims in force are for refreshing. -/
theorem verify_wrongType_iff {tokens : AccessTokens} {now : Nat} {token : String} :
    (∃ refusal, tokens.verify now token = .error refusal
        ∧ refusal.toFailure.cause = .auth .wrongTokenType)
      ↔ ∃ claims, tokens.open? now token = .ok claims ∧ claims.type = .refresh := by
  unfold verify
  cases tokens.open? now token with
  | error fault =>
    cases fault <;> simp [Refusal.toFailure, TokenFault.toFailure]
  | ok claims =>
    cases type : claims.type with
    | refresh => simp [type, Refusal.toFailure, Failure.auth]
    | access =>
      cases named : Uuid.parse? claims.user <;> simp [type, named, Refusal.toFailure, Failure.auth]

/-- An unsigned token is refused for the same reason at all times. -/
theorem verify_of_unsigned (tokens : AccessTokens) (now : Nat) {p : TokenParts}
    (claims : '.' ∉ p.claims) (signature : '.' ∉ p.signature)
    (unsigned : p.signature ≠ Base64.urlEncode (tokens.sign p.message)) :
    tokens.verify now (String.ofList p.toChars)
      = .error (.faulty (unsignedFault p.header p.signature)) := by
  rw [verify, open?_eq_bind, signed?_of_unsigned tokens claims signature unsigned, error_bind]

/-- Acceptance is exact, and the claims of a token have no say before its signature has matched.

A text gives a user access if and only if it is a token signed with the key whose claims are for
access, have not expired, are meant for no certain audience and name the user. A refusal says that
a token has expired, or is of the wrong type, if and only if it is signed and its claims say so.
Two unsigned tokens that differ in their claims only are refused alike, at whatever times. -/
theorem verify_exact (tokens : AccessTokens) (now : Nat) :
    (∀ token user, tokens.verify now token = .ok user ↔
      ∃ p claims, tokens.Signed token p ∧ p.States claims ∧ now ≤ claims.expires
        ∧ claims.hasAudience = false ∧ claims.type = .access
        ∧ Uuid.parse? claims.user = some user) ∧
    (∀ token, (∃ refusal, tokens.verify now token = .error refusal
        ∧ refusal.toFailure.cause = .auth .expired) ↔
      ∃ p claims, tokens.Signed token p ∧ p.States claims ∧ claims.expires < now) ∧
    (∀ token, (∃ refusal, tokens.verify now token = .error refusal
        ∧ refusal.toFailure.cause = .auth .wrongTokenType) ↔
      ∃ p claims, tokens.Signed token p ∧ p.States claims ∧ now ≤ claims.expires
        ∧ claims.hasAudience = false ∧ claims.type = .refresh) ∧
    (∀ p p' : TokenParts, p.header = p'.header → p.signature = p'.signature →
      '.' ∉ p.claims → '.' ∉ p'.claims → '.' ∉ p.signature →
      p.signature ≠ Base64.urlEncode (tokens.sign p.message) →
      p'.signature ≠ Base64.urlEncode (tokens.sign p'.message) →
      ∀ later, tokens.verify now (String.ofList p.toChars)
        = tokens.verify later (String.ofList p'.toChars)) := by
  refine ⟨?_, ?_, ?_, ?_⟩
  · intro token user
    simp only [verify_eq_ok_iff, open?_eq_ok_iff]
    constructor
    · rintro ⟨claims, ⟨p, signed, stated, later, audience⟩, access, named⟩
      exact ⟨p, claims, signed, stated, later, audience, access, named⟩
    · rintro ⟨p, claims, signed, stated, later, audience, access, named⟩
      exact ⟨claims, ⟨p, signed, stated, later, audience⟩, access, named⟩
  · intro token
    rw [verify_expired_iff, open?_eq_expired_iff]
  · intro token
    simp only [verify_wrongType_iff, open?_eq_ok_iff]
    constructor
    · rintro ⟨claims, ⟨p, signed, stated, later, audience⟩, refresh⟩
      exact ⟨p, claims, signed, stated, later, audience, refresh⟩
    · rintro ⟨p, claims, signed, stated, later, audience, refresh⟩
      exact ⟨claims, ⟨p, signed, stated, later, audience⟩, refresh⟩
  · intro p p' sameHeader sameSignature claims claims' signature unsigned unsigned' later
    rw [verify_of_unsigned tokens now claims signature unsigned,
      verify_of_unsigned tokens later claims' (sameSignature ▸ signature) unsigned', sameHeader,
      sameSignature]

end AccessTokens

end Parley
