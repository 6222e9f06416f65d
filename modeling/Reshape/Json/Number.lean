import Reshape.Binary64.Arithmetic
import Reshape.Decimal.Layout

/-!
# Numbers of JSON values

A number of a JSON value is an integer or a binary64 number, and stays what it is:
`2` and `2.0` are different values.  Arithmetic looks at a number as a quantity, where
the integers of 64 bits with a sign are exact and every other number is its nearest
binary64 number.

Main results:

- Theorem `quantity_integer`: when an integer is seen exactly.
- Theorem `combine_exact`: when two integers give an integer.
- Definition `Number.render`: the text of a number.
-/

namespace Reshape

/-- An integer or a binary64 number. -/
inductive Number where
  | integer (value : Int)
  | float (value : Binary64)
deriving DecidableEq

/-- A number as arithmetic sees it. -/
inductive Quantity where
  | exact (value : Int)
  | real (value : Binary64.Extended)
deriving DecidableEq

/-! ## Ranges -/

/-- An integer of 64 bits with a sign. -/
def isSigned64 (n : Int) : Bool :=
  -0x8000000000000000 ≤ n && n < 0x8000000000000000

/-- A natural number of 64 bits. -/
def isUnsigned64 (n : Int) : Bool :=
  0 ≤ n && n < 0x10000000000000000

namespace Number

/-- A number that can stand in a value: an integer that fits 64 bits with or without a
sign, or any binary64 number. -/
def Valid : Number → Prop
  | integer n => isSigned64 n ∨ isUnsigned64 n
  | float _ => True

instance : DecidablePred Valid
  | integer _ => inferInstanceAs (Decidable (_ ∨ _))
  | float _ => isTrue trivial

/-! ## Quantities -/

/-- A number as arithmetic sees it. -/
def quantity : Number → Quantity
  | integer n => if isSigned64 n then .exact n else .real (.ofInt n)
  | float x => .real (.finite x)

/-- Integers of 64 bits with a sign are seen exactly. -/
theorem quantity_integer {n : Int} (h : isSigned64 n) : quantity (integer n) = .exact n := by
  simp [quantity, h]

/-- The text of a number. -/
def render : Number → List Char
  | integer n => (if n < 0 then ['-'] else []) ++ Nat.toDigits 10 n.natAbs
  | float x => x.render

end Number

namespace Quantity

/-- The nearest binary64 number. -/
def toExtended : Quantity → Binary64.Extended
  | exact n => .ofInt n
  | real x => x

/-- Equality of quantities: exact between integers, otherwise between their nearest
binary64 numbers. -/
def equals : Quantity → Quantity → Bool
  | exact m, exact n => m == n
  | x, y => x.toExtended.equals y.toExtended

/-- The order of quantities: exact between integers, otherwise between their nearest
binary64 numbers. -/
def compare? : Quantity → Quantity → Option Ordering
  | exact m, exact n => some (compare m n)
  | x, y => x.toExtended.compare? y.toExtended

/-- An operation that is exact between integers as long as the result has 64 bits. -/
def combine (onIntegers : Int → Int → Int)
    (onReals : Binary64.Extended → Binary64.Extended → Binary64.Extended) :
    Quantity → Quantity → Quantity
  | exact m, exact n =>
    if isSigned64 (onIntegers m n) then exact (onIntegers m n)
    else real (onReals (.ofInt m) (.ofInt n))
  | x, y => real (onReals x.toExtended y.toExtended)

/-- Two integers give an integer when the result has 64 bits. -/
theorem combine_exact {onIntegers : Int → Int → Int}
    {onReals : Binary64.Extended → Binary64.Extended → Binary64.Extended} {m n : Int}
    (h : isSigned64 (onIntegers m n)) :
    combine onIntegers onReals (exact m) (exact n) = exact (onIntegers m n) := by
  simp [combine, h]

/-- The sum. -/
def add : Quantity → Quantity → Quantity :=
  combine (· + ·) .add

/-- Different from zero. -/
def isNonzero (x : Quantity) : Bool :=
  !x.toExtended.isZero

end Quantity

end Reshape
