import Reshape.Json.Dialect
import Reshape.Json.Quoted
import Reshape.Path
import Reshape.Text.Blank

/-!
# Literals in expressions

An argument is a literal when the whole of it can be read as one: a number, a string in
either kind of quotes, one of the words for truth values and null, an array or an
object.  Every other argument is a path into the source document, so a literal can
never be the name of a field.

Main results:

- Definition `Literal.parse?`: the value of a literal.
- Definition `resolveArgument`: the value of an argument.
-/

namespace Reshape

namespace Literal

/-! ## Strings -/

/-- The number that four characters stand for: hexadecimal digits, where a plus sign may
take the place of the first. -/
def codeUnit? (cs : List Char) : Option Nat :=
  match cs.take 4 with
  | '+' :: digits => if digits.length = 3 then natOfHex? digits else none
  | digits => if digits.length = 4 then natOfHex? digits else none

/-- What an escape stands for.  A backslash before a character without a meaning of its
own stays. -/
def readEscape? : List Char → Option (List Char × Nat)
  | [] => none
  | 'u' :: rest =>
    (codeUnit? rest).bind fun n =>
      if isHighSurrogate n || isLowSurrogate n then none else some ([Char.ofNat n], 5)
  | c :: _ =>
    match escapedChar? c with
    | some meaning => some ([meaning], 1)
    | none => some (if c = '\'' then ['\''] else ['\\', c], 1)

/-- Every character stands for itself. -/
def quoting : Quoting where
  isPlain _ := true
  readEscape? := readEscape?

/-- A string in quotes of either kind at the front of a text. -/
def readString? : List Char → Option (String × List Char)
  | [] => none
  | c :: rest =>
    if c = '"' ∨ c = '\'' then
      (readQuoted? quoting c rest).map fun (cs, rest) => (String.ofList cs, rest)
    else
      none

/-! ## Numbers and words -/

/-- The number that a numeral stands for: an integer when it is written as one and fits
64 bits, and otherwise the nearest binary64 number if there is a finite one. -/
def number? (n : Numeral) : Option Number :=
  if n.integral && (isSigned64 n.toInt || isUnsigned64 n.toInt) then
    some (.integer n.toInt)
  else
    n.toExtended.finite?.map .float

/-- The value of a word. -/
def wordValue? (word : List Char) : Option Json :=
  match String.ofList word with
  | "true" => some (.bool true)
  | "True" => some (.bool true)
  | "false" => some (.bool false)
  | "False" => some (.bool false)
  | "null" => some .null
  | "None" => some .null
  | _ => none

/-- The characters with which a number may start. -/
def startsNumber (c : Char) : Bool :=
  c.isDigit || c == '-' || c == '+' || c == '.'

/-- A value without parts at the front of a text. -/
def readScalar? (cs : List Char) : Option (Json × List Char) :=
  match cs with
  | [] => none
  | c :: _ =>
    if c = '"' ∨ c = '\'' then
      (readString? cs).map fun (s, rest) => (.string s, rest)
    else if startsNumber c then
      (Numeral.read? cs).bind fun (numeral, rest) =>
        (number? numeral).map fun n => (.number n, rest)
    else
      (wordValue? (cs.takeWhile Char.isAlpha)).map fun v => (v, cs.dropWhile Char.isAlpha)

/-! ## Literals -/

/-- The notation of literals. -/
def dialect : Dialect where
  isBlank := Text.isBlank
  readScalar? := readScalar?
  readName? := readString?
  allowsTrailingComma := true
  maxDepth := none

/-- The value of a literal, if the whole text is one. -/
def parse? (text : String) : Option Json :=
  dialect.read? text.toList

end Literal

/-- The value of an argument: that of a literal, or the value at a path of the source. -/
def resolveArgument (text : String) (source : Json) : Json :=
  (Literal.parse? text).getD (source.extract text)

end Reshape
