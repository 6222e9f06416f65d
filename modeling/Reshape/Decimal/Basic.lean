import Reshape.Binary64.Rounding

/-!
# Decimal magnitudes

A decimal is a number `digits * 10 ^ exponent`.  Many pairs stand for one number,
so a decimal is put into normal form, without trailing zeros, before it is rounded
to binary64; what a decimal is rounded to then depends on its value alone.

Main results:

- Definition `Decimal.normalize`: the normal form.
- Definition `Decimal.toExtended`: the nearest binary64 number.
-/

namespace Reshape

/-- The number `digits * 10 ^ exponent`. -/
structure Decimal where
  digits : Nat
  exponent : Int
deriving DecidableEq

namespace Decimal

/-! ## Normal form -/

/-- Takes trailing zeros off positive digits. -/
def stripZeros (digits : Nat) (exponent : Int) : Decimal :=
  if h : digits ≠ 0 ∧ digits % 10 = 0 then
    stripZeros (digits / 10) (exponent + 1)
  else
    ⟨digits, exponent⟩
termination_by digits
decreasing_by omega

/-- The same number with the fewest digits; zero has exponent zero. -/
def normalize (d : Decimal) : Decimal :=
  if d.digits = 0 then ⟨0, 0⟩ else stripZeros d.digits d.exponent

/-! ## Rounding -/

/-- The number of decimal digits of a natural number. -/
def digitCount (n : Nat) : Nat :=
  (Nat.toDigits 10 n).length

/-- The binary64 number nearest to a decimal, with the given sign.  From `10 ^ 310` on
every number rounds to an infinity, and below `10 ^ -330` to zero, so the powers that
have to be built stay small. -/
def toExtended (negative : Bool) (d : Decimal) : Binary64.Extended :=
  let n := d.normalize
  if n.digits = 0 then
    .finite (.zero negative)
  else if 310 ≤ n.exponent then
    .infinite negative
  else if n.exponent + digitCount n.digits ≤ -330 then
    .finite (.zero negative)
  else if 0 ≤ n.exponent then
    .ofQuotient negative ((n.digits * Nat.pow 10 n.exponent.toNat) <<< 1074) 1
  else
    .ofQuotient negative (n.digits <<< 1074) (Nat.pow 10 (-n.exponent).toNat)

end Decimal

end Reshape
