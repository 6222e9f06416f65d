import Reshape.Error
import Reshape.Text.Alphanumeric
import Reshape.Text.Blank

/-!
# Tokens of expressions

An expression is cut into words, quoted texts and single symbols, with blanks between
them.  Nothing inside quotes is interpreted: a quoted token runs to the next quote of
the same kind and is kept as it is written.

Main results:

- Definition `Token.scan`: the tokens of a text.
- Definition `Token.WellFormed`: what each kind of token may hold.
-/

namespace Reshape

/-- A token.  A quoted token is kept without its two quotes. -/
inductive Token where
  | word (characters : List Char)
  | quoted (quote : Char) (body : List Char)
  | symbol (character : Char)
deriving DecidableEq

namespace Token

/-! ## Characters -/

/-- A character of words: letters, numbers and the characters of operators. -/
def isWordChar (c : Char) : Bool :=
  Text.isAlphanumeric c || "_.+-*=<>!".toList.contains c

/-- A character that opens and closes quoted tokens. -/
def isQuote (c : Char) : Bool :=
  c == '\'' || c == '"'

/-- The characters of a token as it is written. -/
def characters : Token → List Char
  | word cs => cs
  | quoted quote body => quote :: body ++ [quote]
  | symbol c => [c]

/-- A token as it is written. -/
def text (t : Token) : String :=
  String.ofList t.characters

/-- What each kind of token may hold. -/
def WellFormed : Token → Prop
  | word cs => cs ≠ [] ∧ ∀ c ∈ cs, isWordChar c
  | quoted quote body => isQuote quote ∧ quote ∉ body
  | symbol c => !Text.isBlank c ∧ !isWordChar c ∧ !isQuote c

/-! ## Scanning -/

/-- The rest of a run is no longer than the text. -/
theorem length_dropWhile_le (p : Char → Bool) (cs : List Char) :
    (cs.dropWhile p).length ≤ cs.length :=
  (List.dropWhile_sublist p).length_le

/-- The tokens of a text, or the quote that is not closed. -/
def scan : List Char → Except Malformation (List Token)
  | [] => .ok []
  | c :: rest =>
    if Text.isBlank c then
      scan rest
    else if isWordChar c then
      (scan (rest.dropWhile isWordChar)).map (word (c :: rest.takeWhile isWordChar) :: ·)
    else if isQuote c then
      match _h : rest.dropWhile (· != c) with
      | [] => .error (.unclosedQuote c (String.ofList (c :: rest)))
      | _ :: after => (scan after).map (quoted c (rest.takeWhile (· != c)) :: ·)
    else
      (scan rest).map (symbol c :: ·)
termination_by cs => cs.length
decreasing_by
  · simp
  · have := length_dropWhile_le isWordChar rest
    simp only [List.length_cons]; omega
  · have := length_dropWhile_le (· != c) rest
    simp only [_h, List.length_cons] at this ⊢; omega
  · simp

end Token

end Reshape
