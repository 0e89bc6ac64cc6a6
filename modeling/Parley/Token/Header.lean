import Parley.Json.Reader
import Parley.Json.Record

/-!
# Token headers

The first part of a token names the algorithm it is signed with. `TokenHeader.ofNode?` reads a
header: an object with a known algorithm, whose other members are texts. A standard member may
also be null and stands at most once.
-/

namespace Parley

/-- Algorithms that a header may name. -/
inductive Algorithm where
  | hs256 | hs384 | hs512
  | rs256 | rs384 | rs512
  | ps256 | ps384 | ps512
  | es256 | es384
  | edDsa
  deriving DecidableEq, Repr

/-- The names of the algorithms. -/
def Algorithm.names : List (String × Algorithm) :=
  [("HS256", .hs256), ("HS384", .hs384), ("HS512", .hs512), ("RS256", .rs256), ("RS384", .rs384),
   ("RS512", .rs512), ("PS256", .ps256), ("PS384", .ps384), ("PS512", .ps512), ("ES256", .es256),
   ("ES384", .es384), ("EdDSA", .edDsa)]

/-- The header of a token. -/
structure TokenHeader where
  algorithm : Algorithm
  deriving DecidableEq, Repr

namespace TokenHeader

/-- The standard members that are texts. -/
def textMembers : List String :=
  ["typ", "cty", "jku", "kid", "x5u", "x5t", "x5t#S256"]

/-- The standard members. -/
def standardMembers : List String :=
  ["alg", "jwk", "x5c"] ++ textMembers

/-- Whether a list of nodes holds texts only. -/
def allTexts (nodes : List Node) : Bool :=
  nodes.all (·.text?.isSome)

/-- Whether a member may have a value. Under `jwk` only null is admitted: key objects, which may
stand there too, are out of scope, and a header that has one is taken for malformed. -/
def admits (name : String) (node : Node) : Bool :=
  if name = "alg" then true
  else if name = "jwk" then node matches .null
  else if name = "x5c" then node matches .null || node.items?.any allTexts
  else if name ∈ textMembers then node matches .null || node.text?.isSome
  else node.text?.isSome

/-- The header of a JSON object. -/
def ofNode? (node : Node) : Option TokenHeader := do
  let members ← node.members?
  let standard ← Node.known? standardMembers members
  if ¬ members.all (fun (name, value) => admits name value) then none
  let algorithm ← Fields.require? standard "alg" fun n =>
    n.alternative?.bind fun name => List.lookup name Algorithm.names
  pure { algorithm }

/-- The header that tokens are issued with: their type and the algorithm. -/
def issued : Json :=
  .object [("typ", .text "JWT"), ("alg", .text "HS256")]

end TokenHeader

end Parley
