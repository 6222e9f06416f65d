import Reshape.Decimal.Basic

/-!
# Numerals

A numeral is the text of a number: a sign, digits with an optional point among
them, and an optional exponent.  Reading takes the longest numeral at the front of
a text and keeps its parts; what number the parts stand for is a separate step, so
that grammars of different strictness can share it.

Main results:

- Theorem `digitRun_append`: reading digits loses nothing.
- Definition `Numeral.read?`: the lenient grammar, where digits on one side of the
  point are enough.
- Definition `Numeral.toExtended`: the nearest binary64 number.
-/

namespace Reshape

/-! ## Digits and signs -/

/-- The digits at the front of a text, and the rest. -/
def digitRun (cs : List Char) : List Char × List Char :=
  (cs.takeWhile Char.isDigit, cs.dropWhile Char.isDigit)

/-- Reading digits loses nothing. -/
theorem digitRun_append (cs : List Char) : (digitRun cs).1 ++ (digitRun cs).2 = cs :=
  List.takeWhile_append_dropWhile

/-- The natural number that digits stand for. -/
def natOfDigits (cs : List Char) : Nat :=
  Nat.ofDigitChars 10 cs 0

/-- A sign at the front of a text, and the rest; no sign is a plus sign. -/
def signRun : List Char → Bool × List Char
  | '-' :: rest => (true, rest)
  | '+' :: rest => (false, rest)
  | cs => (false, cs)

/-! ## Numerals -/

/-- The parts of a numeral.  It is `integral` when it is written with neither a point
nor an exponent. -/
structure Numeral where
  negative : Bool
  whole : List Char
  fraction : List Char
  exponent : Int
  integral : Bool
deriving DecidableEq

namespace Numeral

/-- An exponent mark with its sign and digits, if the text starts with a mark; a mark
without digits is an error. -/
def readExponent? : List Char → Option (Option Int × List Char)
  | c :: rest =>
    if c = 'e' ∨ c = 'E' then
      let (negative, rest) := signRun rest
      let (digits, rest) := digitRun rest
      if digits.isEmpty then
        none
      else
        let size : Int := natOfDigits digits
        some (some (if negative then -size else size), rest)
    else
      some (none, c :: rest)
  | [] => some (none, [])

/-- A point with the digits after it, if the text starts with a point. -/
def readFraction : List Char → Option (List Char) × List Char
  | '.' :: rest => let (digits, rest) := digitRun rest; (some digits, rest)
  | cs => (none, cs)

/-- The numeral at the front of a text.  One digit before or after the point is
enough. -/
def read? (cs : List Char) : Option (Numeral × List Char) :=
  let (negative, cs) := signRun cs
  let (whole, cs) := digitRun cs
  let (fraction?, cs) := readFraction cs
  let fraction := fraction?.getD []
  if whole.isEmpty && fraction.isEmpty then
    none
  else
    (readExponent? cs).map fun (exponent?, cs) =>
      ({ negative
         whole
         fraction
         exponent := exponent?.getD 0
         integral := fraction?.isNone && exponent?.isNone }, cs)

/-! ## Values -/

/-- The integer that the digits before the point stand for. -/
def toInt (n : Numeral) : Int :=
  if n.negative then -(natOfDigits n.whole : Int) else natOfDigits n.whole

/-- The magnitude that a numeral stands for. -/
def decimal (n : Numeral) : Decimal :=
  ⟨natOfDigits (n.whole ++ n.fraction), n.exponent - n.fraction.length⟩

/-- The binary64 number nearest to what a numeral stands for. -/
def toExtended (n : Numeral) : Binary64.Extended :=
  n.decimal.toExtended n.negative

end Numeral

end Reshape
