/-
Quoted text: a text between double quotes in which every character that could be mistaken for
something else is written as an escape. A quote and a backslash are preceded by a backslash; the
common control characters have letters of their own; any other character that would not show is
written by its code point in hexadecimal.
-/
import LinkTap.Text.Numeral
import LinkTap.Text.Unprintable

set_option autoImplicit false

namespace LinkTap.Quoted

/-- Whether a character shows as itself. -/
def isShown (c : Char) : Bool :=
  if c.toNat < 0x7F then 0x20 ≤ c.toNat else !Unprintable.contains c.toNat

/-- One character inside quotes. -/
def escape (c : Char) : List Char :=
  match c with
  | '"' => ['\\', '"']
  | '\\' => ['\\', '\\']
  | '\n' => ['\\', 'n']
  | '\r' => ['\\', 'r']
  | '\t' => ['\\', 't']
  | '\x00' => ['\\', '0']
  | c =>
    if isShown c then [c]
    else ['\\', 'u', '\x7b'] ++ (Numeral.hex c.toNat).toList ++ ['\x7d']

/-- The quoted form of a text. -/
def encode (s : String) : String :=
  String.ofList ('"' :: s.toList.flatMap escape ++ ['"'])

end LinkTap.Quoted
