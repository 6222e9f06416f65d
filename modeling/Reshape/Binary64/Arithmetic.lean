import Reshape.Binary64.Rounding

/-!
# Arithmetic on binary64 numbers

The four operations, the remainder and the square root are exact computations on
units followed by one rounding; infinities and the indeterminate value follow the
usual rules.  Comparison and the passage to whole numbers need no rounding.

Main results:

- Definition `Extended.add` and its companions: the rounded operations.
- Definition `floorSqrt`: the integer square root.
- Definition `Extended.compare?`: the order, undefined on the indeterminate value.
-/

namespace Reshape

namespace Binary64

/-! ## Whole numbers -/

/-- The integer part, the fraction dropped. -/
def truncate (x : Binary64) : Int :=
  x.units.tdiv unitsPerOne

/-- The greatest integer that is not above the number. -/
def floor (x : Binary64) : Int :=
  x.units.fdiv unitsPerOne

/-- The least integer that is not below the number. -/
def ceiling (x : Binary64) : Int :=
  -((-x.units).fdiv unitsPerOne)

/-- The number has no fraction. -/
def isWhole (x : Binary64) : Bool :=
  x.magnitude % unitsPerOne == 0

/-! ## Square roots of natural numbers -/

/-- The greatest natural number whose square is not above `n`, found two bits of
`n` at a time. -/
def floorSqrt (n : Nat) : Nat :=
  if h : n = 0 then
    0
  else
    let root := 2 * floorSqrt (n / 4)
    if (root + 1) * (root + 1) ≤ n then root + 1 else root
termination_by n
decreasing_by omega

namespace Extended

/-! ## The four operations -/

/-- The rounded sum. -/
def add : Extended → Extended → Extended
  | finite x, finite y => ofUnits (x.negative && y.negative) (x.units + y.units)
  | infinite s, infinite t => if s == t then infinite s else nan
  | infinite s, finite _ => infinite s
  | finite _, infinite t => infinite t
  | _, _ => nan

/-- The rounded difference. -/
def sub (x y : Extended) : Extended :=
  x.add y.negate

/-- The rounded product. -/
def mul : Extended → Extended → Extended
  | finite x, finite y =>
    ofQuotient (x.negative ^^ y.negative) (x.magnitude * y.magnitude) unitsPerOne
  | infinite s, infinite t => infinite (s ^^ t)
  | infinite s, finite y => if y.isZero then nan else infinite (s ^^ y.negative)
  | finite x, infinite t => if x.isZero then nan else infinite (x.negative ^^ t)
  | _, _ => nan

/-- The rounded quotient. -/
def div : Extended → Extended → Extended
  | finite x, finite y =>
    if y.isZero then
      if x.isZero then nan else infinite (x.negative ^^ y.negative)
    else
      ofQuotient (x.negative ^^ y.negative) (x.magnitude <<< 1074) y.magnitude
  | infinite s, finite y => infinite (s ^^ y.negative)
  | finite x, infinite t => finite (zero (x.negative ^^ t))
  | _, _ => nan

/-- The remainder of truncated division, with the sign of the first operand. -/
def rem : Extended → Extended → Extended
  | finite x, finite y =>
    if y.isZero then nan else ofUnits x.negative (x.units.tmod y.units)
  | finite x, infinite _ => finite x
  | _, _ => nan

/-- The rounded square root.  The root is taken to `2 ^ -537` of a unit at least, so
one more bit that says whether it is inexact settles the rounding. -/
def sqrt : Extended → Extended
  | finite x =>
    if x.isZero then
      finite x
    else if x.negative then
      nan
    else
      let square := x.magnitude <<< 1074
      let root := floorSqrt square
      let sticky := if root * root = square then 0 else 1
      ofQuotient false (2 * root + sticky) 2
  | infinite negative => if negative then nan else infinite false
  | nan => nan

/-! ## Order -/

/-- The order of two values, undefined when either is indeterminate. -/
def compare? : Extended → Extended → Option Ordering
  | nan, _ => none
  | _, nan => none
  | finite x, finite y => some (compare x.units y.units)
  | infinite s, infinite t => some (compare t s)
  | infinite s, finite _ => some (if s then .lt else .gt)
  | finite _, infinite t => some (if t then .gt else .lt)

/-- Equality by value: the two zeros are equal, and the indeterminate value is equal
to nothing. -/
def equals (x y : Extended) : Bool :=
  x.compare? y == some .eq

end Extended

end Binary64

end Reshape
