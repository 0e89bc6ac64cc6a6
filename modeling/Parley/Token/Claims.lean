import Parley.Json.Reader
import Parley.Json.Record
import Parley.Word

/-!
# Token claims

The second part of a token says whom it is for, what it is for and when it is in force.
`Claims.ofNode?` reads it from a JSON object. Of the registered claims that are not used here,
those for subject and start may have any simple value, and those for issuer and audience any value
that is sound and not too deep; an audience that is a text or a list of texts is kept as present.
-/

namespace Parley

/-- What a token is for. -/
inductive TokenType where
  | access
  | refresh
  deriving DecidableEq, Repr

namespace TokenType

/-- The name of a type in JSON. -/
def tag : TokenType → String
  | .access => "access"
  | .refresh => "refresh"

/-- The type of a name. -/
def ofTag? (tag : String) : Option TokenType :=
  if tag = "access" then some .access
  else if tag = "refresh" then some .refresh
  else none

end TokenType

/-- The claims of a token: the text of the user's id, what the token is for, the seconds at which
it was issued and at which it expires, and whether it is meant for a certain audience. -/
structure Claims where
  user : String
  type : TokenType
  issuedAt : Nat
  expires : Nat
  hasAudience : Bool := false
  deriving DecidableEq, Repr

mutual

/-- Whether every literal of a tree stands for a text. -/
def Node.sound : Node → Bool
  | .text value => value.toOption.isSome
  | .array items => soundItems items
  | .object members => soundMembers members
  | _ => true

/-- Whether every literal of the items stands for a text. -/
def soundItems : List Node → Bool
  | [] => true
  | item :: rest => item.sound && soundItems rest

/-- Whether every literal of the members stands for a text. -/
def soundMembers : List (Option String × Node) → Bool
  | [] => true
  | (key, value) :: rest => key.isSome && value.sound && soundMembers rest

end

namespace Claims

/-- The members of the claims of a user. -/
def memberNames : List String :=
  ["user_id", "type", "iat", "exp"]

/-- Registered claims that a token may carry besides. -/
def registeredNames : List String :=
  ["nbf", "sub", "iss", "aud"]

/-- The unsigned 64-bit integer of a numeral. -/
def seconds? (node : Node) : Option Nat := do
  let n ← node.integer?
  if Word.isUnsigned64 n then pure n.toNat else none

/-- Whether a value of a member can be read as a value: its literals stand for texts, and its
containers, with the one it is a member of, are within the depth limit. -/
def isValue (node : Node) : Bool :=
  node.sound && decide (node.depth < Json.depthLimit)

/-- Whether a registered claim may have a value. -/
def admits (name : String) (node : Node) : Bool :=
  match node with
  | .text value => !(value matches .error .surrogate)
  | .array items => name ≠ "sub" && if name = "nbf" then items.isEmpty else isValue node
  | .object members => name ≠ "sub" && if name = "nbf" then members.isEmpty else isValue node
  | _ => true

/-- Whether a value names an audience: a text, or a list of texts. -/
def isAudience : Node → Bool
  | .text value => value.toOption.isSome
  | .array items => items.all (·.text?.isSome)
  | _ => false

/-- The claims of a JSON object. -/
def ofNode? (node : Node) : Option Claims := do
  let members ← node.members?
  let known ← Node.known? (memberNames ++ registeredNames) members
  let user ← Fields.require? known "user_id" Node.text?
  let type ← Fields.require? known "type" fun n => n.alternative?.bind TokenType.ofTag?
  let issuedAt ← Fields.require? known "iat" seconds?
  let expires ← Fields.require? known "exp" seconds?
  if ¬ known.all (fun (name, value) => name ∈ memberNames || admits name value) then none
  pure { user, type, issuedAt, expires, hasAudience := (known.lookup "aud").any isAudience }

/-- The claims as JSON, in the order in which they are issued. -/
def toJson (c : Claims) : Json :=
  .object [("user_id", .text c.user), ("type", .text c.type.tag),
    ("iat", .integer c.issuedAt), ("exp", .integer c.expires)]

end Claims

end Parley
