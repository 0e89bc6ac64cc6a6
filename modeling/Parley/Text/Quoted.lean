import Parley.Text.Hex
import Parley.Text.Printable

/-!
# Quoted text

The form in which messages quote a text of unknown content: between double quotes, with a
backslash before a quote or a backslash, short names for the usual controls, and the code point in
braces for every other character that is not shown as itself.
-/

namespace Parley.Quoted

/-- The code point of a character in braces, behind a backslash and a `u`. -/
def codePoint (c : Char) : List Char :=
  ['\\', 'u', '{'] ++ Hex.ofNat c.toNat ++ ['}']

/-- A character as it stands inside quotes. -/
def charText (c : Char) : List Char :=
  match c with
  | '"' => ['\\', '"']
  | '\\' => ['\\', '\\']
  | '\n' => ['\\', 'n']
  | '\r' => ['\\', 'r']
  | '\t' => ['\\', 't']
  | '\x00' => ['\\', '0']
  | c => if Printable.isShown c then [c] else codePoint c

/-- A text between double quotes. -/
def quote (text : String) : String :=
  String.ofList ('"' :: text.toList.flatMap charText ++ ['"'])

end Parley.Quoted
