import Reshape.Decimal.Numeral
import Reshape.Json.Printer
import Reshape.Text.Blank

/-!
# Coercions between kinds of values

A value of one kind is taken for another where that makes sense: texts are read as
numbers, numbers as truth values, and everything but null as a text.  No coercion
fails; what cannot be coerced is missing.

Main results:

- Definition `readReal?`: the number that a whole text stands for.
- Definitions `toText?`, `toBool`, `toExtended?`, `toInteger?`, `toNumber?`.
-/

namespace Reshape

/-! ## Numbers in texts -/

/-- The infinity or the indeterminate value that a word stands for, in any case. -/
def specialWord? (negative : Bool) (word : List Char) : Option Binary64.Extended :=
  let word := String.ofList (word.map Char.toLower)
  if word = "inf" ∨ word = "infinity" then some (.infinite negative)
  else if word = "nan" then some .nan
  else none

/-- The binary64 number that a whole text stands for: a numeral, or a word for one that is
not finite, with an optional sign. -/
def readReal? (cs : List Char) : Option Binary64.Extended :=
  match Numeral.read? cs with
  | some (numeral, []) => some numeral.toExtended
  | _ =>
    let (negative, word) := signRun cs
    specialWord? negative word

/-- The integer of 64 bits that a whole text stands for. -/
def readInteger? (cs : List Char) : Option Int :=
  let (negative, digits) := signRun cs
  let size : Int := natOfDigits digits
  let n := if negative then -size else size
  if !digits.isEmpty && digits.all Char.isDigit && isSigned64 n then some n else none

/-- The integer of 64 bits that is left of a number when its fraction is dropped. -/
def Binary64.Extended.truncate? : Binary64.Extended → Option Int
  | .finite x => if isSigned64 x.truncate then some x.truncate else none
  | _ => none

/-- A finite number without a fraction. -/
def Binary64.Extended.isWhole : Binary64.Extended → Bool
  | .finite x => x.isWhole
  | _ => false

namespace Json

/-! ## Coercions -/

/-- A value as a text; null is none. -/
def toText? : Json → Option String
  | null => none
  | v => some v.text

/-- Whether a value stands for true: the truth value, the number one, and two spellings. -/
def toBool : Json → Bool
  | bool b => b
  | number n => n.quantity.toExtended.equals (.ofInt 1)
  | string s => s == "True" || s == "true"
  | _ => false

/-- A value as a binary64 number. -/
def toExtended? : Json → Option Binary64.Extended
  | number n => some n.quantity.toExtended
  | bool b => some (.ofInt (if b then 1 else 0))
  | string s => readReal? (Text.trim s.toList)
  | _ => none

/-- A value as an integer of 64 bits, a fraction dropped.  A text that is no integer is
read as a binary64 number first. -/
def toInteger? (v : Json) : Option Int :=
  match v with
  | number n =>
    match n.quantity with
    | .exact n => some n
    | .real x => x.truncate?
  | string s =>
    match readInteger? (Text.trim s.toList) with
    | some n => some n
    | none => v.toExtended?.bind (·.truncate?)
  | _ => v.toExtended?.bind (·.truncate?)

/-- A value as a number.  Numbers are kept as arithmetic sees them, and of the others the
whole ones become integers. -/
def toNumber? (v : Json) : Option Json :=
  match v with
  | number n => some (ofQuantity n.quantity)
  | _ =>
    v.toExtended?.map fun x =>
      match x.truncate? with
      | some n => if x.isWhole then ofInt n else ofExtended x
      | none => ofExtended x

end Json

end Reshape
