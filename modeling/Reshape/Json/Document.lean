import Reshape.Json.Dialect
import Reshape.Json.Quoted
import Reshape.Decimal.Numeral

/-!
# JSON documents

The strict notation of JSON texts: four blanks, double quotes, no comma before a
closing bracket, and containers up to 127 levels deep.  A numeral with neither a point
nor an exponent is an integer when it fits 64 bits, and every other numeral is a
binary64 number; the integer numeral `-0` is the negative zero.

Main results:

- Definition `Json.ofDocument?`: the value of a JSON text.
-/

namespace Reshape

namespace Document

/-! ## Blanks and words -/

/-- The four blanks of JSON texts. -/
def isBlank (c : Char) : Bool :=
  c == ' ' || c == '\n' || c == '\t' || c == '\r'

/-- The rest of a text behind a word at its front. -/
def readWord? (word : String) (cs : List Char) : Option (List Char) :=
  word.toList.isPrefixOf? cs

/-! ## Strings -/

/-- What an escape stands for.  A surrogate pair stands for one character, and half a pair
for none. -/
def readEscape? : List Char → Option (List Char × Nat)
  | 'u' :: rest =>
    (hexQuad? rest).bind fun n =>
      if isHighSurrogate n then
        match rest.drop 4 with
        | '\\' :: 'u' :: rest =>
          (hexQuad? rest).bind fun m =>
            if isLowSurrogate m then
              some ([Char.ofNat (0x10000 + 0x400 * (n - 0xd800) + (m - 0xdc00))], 11)
            else
              none
        | _ => none
      else if isLowSurrogate n then
        none
      else
        some ([Char.ofNat n], 5)
  | c :: _ => (escapedChar? c).map fun c => ([c], 1)
  | [] => none

/-- Every character but the controls stands for itself. -/
def quoting : Quoting where
  isPlain c := 0x20 ≤ c.toNat
  readEscape? := readEscape?

/-- A string at the front of a text. -/
def readString? : List Char → Option (String × List Char)
  | '"' :: rest => (readQuoted? quoting '"' rest).map fun (cs, rest) => (String.ofList cs, rest)
  | _ => none

/-! ## Numbers -/

/-- A minus sign at the front of a text. -/
def readMinus : List Char → Bool × List Char
  | '-' :: rest => (true, rest)
  | cs => (false, cs)

/-- Digits before the point: at least one, and no zero before another digit. -/
def isWhole (digits : List Char) : Bool :=
  match digits with
  | [] => false
  | ['0'] => true
  | c :: _ => c != '0'

/-- A numeral at the front of a text. -/
def readNumeral? (cs : List Char) : Option (Numeral × List Char) :=
  let (negative, cs) := readMinus cs
  let (whole, cs) := digitRun cs
  let (fraction?, cs) := Numeral.readFraction cs
  if !isWhole whole || fraction? == some [] then
    none
  else
    (Numeral.readExponent? cs).map fun (exponent?, cs) =>
      ({ negative
         whole
         fraction := fraction?.getD []
         exponent := exponent?.getD 0
         integral := fraction?.isNone && exponent?.isNone }, cs)

/-- The number that a numeral stands for, if it is finite. -/
def number? (n : Numeral) : Option Number :=
  if n.integral && !(n.negative && n.toInt == 0) &&
      (isSigned64 n.toInt || isUnsigned64 n.toInt) then
    some (.integer n.toInt)
  else
    n.toExtended.finite?.map .float

/-! ## Documents -/

/-- A value without parts at the front of a text. -/
def readScalar? (cs : List Char) : Option (Json × List Char) :=
  match cs with
  | '"' :: _ => (readString? cs).map fun (s, rest) => (.string s, rest)
  | 'n' :: _ => (readWord? "null" cs).map fun rest => (.null, rest)
  | 't' :: _ => (readWord? "true" cs).map fun rest => (.bool true, rest)
  | 'f' :: _ => (readWord? "false" cs).map fun rest => (.bool false, rest)
  | _ =>
    (readNumeral? cs).bind fun (numeral, rest) =>
      (number? numeral).map fun n => (.number n, rest)

/-- The strict notation. -/
def dialect : Dialect where
  isBlank := isBlank
  readScalar? := readScalar?
  readName? := readString?
  allowsTrailingComma := false
  maxDepth := some 127

end Document

/-- The value of a JSON text. -/
def Json.ofDocument? (text : String) : Option Json :=
  Document.dialect.read? text.toList

end Reshape
