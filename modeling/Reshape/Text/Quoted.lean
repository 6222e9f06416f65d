import Reshape.Text.Printable

/-!
# Quoted texts

A text is quoted for a message with double quotes around it.  Quotes, backslashes and
the common controls are escaped by a backslash, and every other character that does
not print by itself by its code point in braces.

Main results:

- Definition `quote`: the quoted form of a text.
-/

namespace Reshape

namespace Text

/-- A character as it stands between quotes. -/
def escape (c : Char) : List Char :=
  match c with
  | '\x00' => ['\\', '0']
  | '\t' => ['\\', 't']
  | '\n' => ['\\', 'n']
  | '\r' => ['\\', 'r']
  | '"' => ['\\', '"']
  | '\\' => ['\\', '\\']
  | c =>
    if standsAlone c then [c]
    else ['\\', 'u', '{'] ++ Nat.toDigits 16 c.toNat ++ ['}']

/-- A text between double quotes. -/
def quote (cs : List Char) : List Char :=
  '"' :: cs.flatMap escape ++ ['"']

end Text

end Reshape
