import Parley.Notice
import Parley.Web.Exchange

/-!
# Origins

Which pages of other sites may read the answers. `Origins.ofList` reads the list of the
configuration: a star among the entries admits every origin, and an entry that cannot stand in a
header is left out with a notice. `Origins.headers` are the headers that tell a browser.
-/

namespace Parley.Web

/-- The origins admitted. -/
inductive Origins where
  | any
  | listed (origins : List (List UInt8))

namespace Origins

/-- Whether a byte may stand in the value of a header: no control except the tab. -/
def isHeaderByte (b : UInt8) : Bool :=
  (32 ≤ b.toNat && b.toNat ≠ 127) || b.toNat = 9

/-- Whether a text may be the value of a header. -/
def isHeaderText (text : String) : Bool :=
  (Utf8.encode text.toList).all isHeaderByte

/-- The origins of a list of entries, and notices of the entries left out. -/
def ofList (entries : List String) : Origins × List Notice :=
  if entries.contains "*" then (.any, [])
  else
    (.listed ((entries.filter isHeaderText).map fun o => Utf8.encode o.toList),
      (entries.filter fun o => !isHeaderText o).map .invalidOrigin)

/-- The header that admits the origin of a request. -/
def allowOrigin (origins : Origins) (request : Request) : List (String × String) :=
  let permit (value : String) := [("access-control-allow-origin", value)]
  match origins with
  | .any => permit "*"
  | .listed origins =>
    match request.header? "origin" with
    | some origin =>
      if origins.contains origin then permit (String.ofList (Utf8.lossy origin)) else []
    | none => []

/-- What the answer to an `OPTIONS` request tells of methods and headers. -/
def permissions : List (String × String) :=
  [("access-control-allow-methods", "GET"),
   ("access-control-allow-headers", "authorization,content-type")]

/-- The headers of an answer: what the answer varies with, and whether the page may read it. -/
def headers (origins : Origins) (request : Request) : List (String × String) :=
  ("vary", "origin, access-control-request-method, access-control-request-headers")
    :: origins.allowOrigin request

end Origins

end Parley.Web
