/-!
# UTF-8

Text as bytes and bytes as text. `Utf8.encode` writes characters. `Utf8.symbols` reads any byte
string as a list of symbols, `some c` for a character and `none` for each maximal run of bytes
that begins no character: a reader that tolerates such runs in some places works on symbols.
`Utf8.lossy` puts U+FFFD for each of them, and `Utf8.decode?` refuses a byte string that has one.

The reader is a state machine (`Utf8.accept`) over one byte at a time, so that a text which
arrives in pieces can be checked as it arrives.
-/

namespace Parley.Utf8

/-- The bytes of a text. -/
def encode (text : List Char) : List UInt8 :=
  text.flatMap String.utf8EncodeChar

/-- A character that has been started: the bits read so far, how many more bytes belong to it,
and the least and greatest byte that may come next. -/
structure Pending where
  bits : Nat
  owed : Nat
  low : Nat
  high : Nat
  deriving DecidableEq, Repr

/-- The character a first byte begins, if it begins one of several bytes. -/
def Pending.ofLead? (b : Nat) : Option Pending :=
  if 0xC2 ≤ b ∧ b ≤ 0xDF then some ⟨b - 0xC0, 1, 0x80, 0xBF⟩
  else if b = 0xE0 then some ⟨0, 2, 0xA0, 0xBF⟩
  else if b = 0xED then some ⟨b - 0xE0, 2, 0x80, 0x9F⟩
  else if 0xE1 ≤ b ∧ b ≤ 0xEF then some ⟨b - 0xE0, 2, 0x80, 0xBF⟩
  else if b = 0xF0 then some ⟨0, 3, 0x90, 0xBF⟩
  else if 0xF1 ≤ b ∧ b ≤ 0xF3 then some ⟨b - 0xF0, 3, 0x80, 0xBF⟩
  else if b = 0xF4 then some ⟨4, 3, 0x80, 0x8F⟩
  else none

/-- A byte that stands where a character begins: the symbols it completes, and what it starts. -/
def begin (b : Nat) : List (Option Char) × Option Pending :=
  if b < 0x80 then ([some (Char.ofNat b)], none)
  else
    match Pending.ofLead? b with
    | some p => ([], some p)
    | none => ([none], none)

/-- One byte more. A byte that cannot continue the started character ends it as an undecodable
run and stands at the beginning of the next. -/
def accept (pending : Option Pending) (byte : UInt8) : List (Option Char) × Option Pending :=
  let b := byte.toNat
  match pending with
  | none => begin b
  | some p =>
    if p.low ≤ b ∧ b ≤ p.high then
      let bits := 64 * p.bits + (b - 0x80)
      if p.owed ≤ 1 then ([some (Char.ofNat bits)], none)
      else ([], some ⟨bits, p.owed - 1, 0x80, 0xBF⟩)
    else
      let (symbols, next) := begin b
      (none :: symbols, next)

/-- The symbols of a byte string read from `pending` on, newest first, and what is left started. -/
def scan (pending : Option Pending) (bytes : List UInt8) : List (Option Char) × Option Pending :=
  bytes.foldl
    (fun (symbols, pending) b =>
      let (more, next) := accept pending b
      (more.reverse ++ symbols, next))
    ([], pending)

/-- The symbols of a byte string; a character that the end cuts off is an undecodable run. -/
def symbols (bytes : List UInt8) : List (Option Char) :=
  let (reversed, pending) := scan none bytes
  (if pending.isSome then none :: reversed else reversed).reverse

/-- The text of a byte string, with U+FFFD for each undecodable run. -/
def lossy (bytes : List UInt8) : List Char :=
  (symbols bytes).map (·.getD '\ufffd')

/-- The text of a byte string that is UTF-8 throughout. -/
def decode? (bytes : List UInt8) : Option String :=
  String.fromUTF8? (ByteArray.mk bytes.toArray)

end Parley.Utf8
