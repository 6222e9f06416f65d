import Reshape.Binary64.Basic

/-!
# Rounding to binary64

A quotient of natural numbers, counted in units of `2 ^ -1074`, is rounded to the
nearest binary64 number, and to the one with the even significand when two are
equally near.  Every operation of this library that yields a binary64 number is
an exact computation followed by this one rounding.

Main results:

- Theorem `roundHalfEven_mul_right`: a whole number is rounded to itself.
- Definition `Extended.ofQuotient`: rounding of a quotient of units.
-/

namespace Reshape

namespace Binary64

/-! ## Nearest whole number -/

/-- The natural number nearest to `num / den`; of two equally near the even one. -/
def roundHalfEven (num den : Nat) : Nat :=
  let quotient := num / den
  let twice := 2 * (num % den)
  if den < twice ∨ (den = twice ∧ quotient % 2 = 1) then quotient + 1 else quotient

/-- A whole number is rounded to itself. -/
theorem roundHalfEven_mul_right (n den : Nat) (h : 0 < den) :
    roundHalfEven (n * den) den = n := by
  have : den ≠ 0 := by omega
  simp [roundHalfEven, Nat.mul_div_cancel n h, this]

namespace Extended

/-! ## Nearest binary64 number -/

/-- The shift at which `num / den` has 53 bits before the point, or no shift for
a smaller quotient. -/
def shiftFor (num den : Nat) : Nat :=
  (num / den).log2 - 52

/-- The binary64 number nearest to `num / den` units.  A significand that is
rounded up to `2 ^ 53` is the smallest one at the next shift, and a shift past
the last one makes the result infinite. -/
def ofQuotient (negative : Bool) (num den : Nat) : Extended :=
  let shift := shiftFor num den
  let significand := roundHalfEven num (den <<< shift)
  if significand = 0x20000000000000 then
    ofParts negative 0x10000000000000 (shift + 1)
  else
    ofParts negative significand shift

/-- The binary64 number nearest to a whole number of units.  No units at all are
the zero of the given sign. -/
def ofUnits (zeroSign : Bool) (n : Int) : Extended :=
  ofQuotient (if n = 0 then zeroSign else n < 0) n.natAbs 1

/-- The binary64 number nearest to an integer. -/
def ofInt (n : Int) : Extended :=
  ofQuotient (n < 0) (n.natAbs <<< 1074) 1

end Extended

end Binary64

end Reshape
