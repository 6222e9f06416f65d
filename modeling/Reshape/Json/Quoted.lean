/-!
# Quoted strings

Strings stand between two quotes, with escapes that start with a backslash.  Which
characters stand for themselves and which escapes there are is left open, so that
notations with different escapes share the reading of strings.

Main results:

- Definition `readQuoted?`: the string at the front of a text.
- Theorem `readQuoted?_quote`: the closing quote ends the string.
-/

namespace Reshape

/-! ## Hexadecimal digits -/

/-- The value of a hexadecimal digit of either case. -/
def hexValue? (c : Char) : Option Nat :=
  if '0' ≤ c ∧ c ≤ '9' then some (c.toNat - '0'.toNat)
  else if 'a' ≤ c ∧ c ≤ 'f' then some (c.toNat - 'a'.toNat + 10)
  else if 'A' ≤ c ∧ c ≤ 'F' then some (c.toNat - 'A'.toNat + 10)
  else none

/-- The number that hexadecimal digits stand for. -/
def natOfHex? (cs : List Char) : Option Nat :=
  cs.foldl (fun value? c => value?.bind fun value => (hexValue? c).map (16 * value + ·)) (some 0)

/-- The number that the first four characters stand for, if they are hexadecimal digits. -/
def hexQuad? (cs : List Char) : Option Nat :=
  let quad := cs.take 4
  if quad.length = 4 then natOfHex? quad else none

/-- The first half of a surrogate pair. -/
def isHighSurrogate (n : Nat) : Bool :=
  0xd800 ≤ n && n < 0xdc00

/-- The second half of a surrogate pair. -/
def isLowSurrogate (n : Nat) : Bool :=
  0xdc00 ≤ n && n < 0xe000

/-- The character that the escape of one letter stands for in every notation. -/
def escapedChar? : Char → Option Char
  | 'n' => some '\n'
  | 't' => some '\t'
  | 'r' => some '\r'
  | 'b' => some '\x08'
  | 'f' => some '\x0c'
  | '\\' => some '\\'
  | '/' => some '/'
  | '"' => some '"'
  | _ => none

/-! ## Strings -/

/-- How the inside of a string is written: the characters that stand for themselves, and
what an escape stands for, read behind its backslash, with the number of characters that
it takes up there. -/
structure Quoting where
  isPlain : Char → Bool
  readEscape? : List Char → Option (List Char × Nat)

/-- The characters of a string up to its closing quote, and the text behind it. -/
def readQuoted? (q : Quoting) (quote : Char) : List Char → Option (List Char × List Char)
  | [] => none
  | c :: rest =>
    if c = quote then
      some ([], rest)
    else if c = '\\' then
      (q.readEscape? rest).bind fun (meaning, taken) =>
        (readQuoted? q quote (rest.drop taken)).map fun (cs, rest) => (meaning ++ cs, rest)
    else if q.isPlain c then
      (readQuoted? q quote rest).map fun (cs, rest) => (c :: cs, rest)
    else
      none
termination_by cs => cs.length
decreasing_by all_goals simp only [List.length_drop, List.length_cons]; omega

/-- The closing quote ends the string. -/
theorem readQuoted?_quote (q : Quoting) (quote : Char) (rest : List Char) :
    readQuoted? q quote (quote :: rest) = some ([], rest) := by
  simp [readQuoted?]

end Reshape
