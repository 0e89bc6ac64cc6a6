import Parley.Digest.Sha1
import Parley.Text.Base64
import Parley.Web.Exchange

/-!
# The WebSocket handshake

A request becomes a WebSocket if it is a `GET` whose headers ask for it, of version 13 and with a
key, and if the transport can be taken over. `Handshake.check` gives the key, or the first thing
that is missing; `Handshake.accepted` is the answer that opens the WebSocket.
-/

namespace Parley.Web

/-- Why a request does not become a WebSocket. -/
inductive HandshakeFault where
  | method
  | connection
  | upgrade
  | key
  | version
  /-- The transport cannot be taken over. -/
  | transport
  deriving DecidableEq, Repr

/-- The status a fault is answered with. -/
def HandshakeFault.status : HandshakeFault → Status
  | .method => .methodNotAllowed
  | .transport => .upgradeRequired
  | .connection | .upgrade | .key | .version => .badRequest

/-- The text a fault is answered with. -/
def HandshakeFault.text : HandshakeFault → String
  | .method => "Request method must be `GET`"
  | .connection => "Connection header did not include 'upgrade'"
  | .upgrade => "`Upgrade` header did not include 'websocket'"
  | .key => "`Sec-WebSocket-Key` header missing"
  | .version => "`Sec-WebSocket-Version` header did not include '13'"
  | .transport => "WebSocket request couldn't be upgraded since no upgrade state was present"

namespace Handshake

/-- The text of a header in lower case. -/
def lowered? (r : Request) (name : String) : Option (List Char) :=
  ((r.header? name).bind Utf8.decode?).map fun s => s.toList.map Char.toLower

/-- Whether a word stands somewhere in a text. -/
def occurs (word : List Char) : List Char → Bool
  | [] => word.isEmpty
  | c :: rest => word.isPrefixOf (c :: rest) || occurs word rest

/-- Whether a header contains a word in any case. -/
def mentions (r : Request) (name word : String) : Bool :=
  (lowered? r name).any (occurs word.toList ·)

/-- Whether a header is a word in any case. -/
def isWord (r : Request) (name word : String) : Bool :=
  lowered? r name = some word.toList

/-- The key of a handshake that can be accepted. -/
def check (r : Request) (upgradable : Bool) : Except HandshakeFault (List UInt8) := do
  if r.method ≠ .get then throw .method
  if !mentions r "connection" "upgrade" then throw .connection
  if !isWord r "upgrade" "websocket" then throw .upgrade
  let key ← (r.header? "sec-websocket-key").elim (.error .key) .ok
  if !isWord r "sec-websocket-version" "13" then throw .version
  if !upgradable then throw .transport
  pure key

/-- The headers with which a client asks for a WebSocket. -/
def clientHeaders (key : String) : List (String × List UInt8) :=
  [("connection", "Upgrade"), ("upgrade", "websocket"), ("sec-websocket-version", "13"),
    ("sec-websocket-key", key)].map fun (name, value) => (name, Utf8.encode value.toList)

/-- The text that every key is joined with. -/
def signature : String := "258EAFA5-E914-47DA-95CA-C5AB0DC85B11"

/-- The answer to a key. -/
def acceptance (key : List UInt8) : String :=
  String.ofList (Base64.encodePadded (Sha1.hash (key ++ Utf8.encode signature.toList)))

/-- The response that opens a WebSocket. -/
def accepted (key : List UInt8) : Response where
  status := .switchingProtocols
  headers := [("connection", "upgrade"), ("upgrade", "websocket"),
    ("sec-websocket-accept", acceptance key)]

end Handshake

end Parley.Web
