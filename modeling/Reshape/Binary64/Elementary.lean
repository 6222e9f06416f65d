import Reshape.Binary64.FixedPoint

/-!
# Elementary functions on binary64 numbers

Each function answers at zeros, at arguments outside its domain and where its
result leaves the finite numbers by rule, and everywhere else rounds a fixed-point
result.  Powers that may fall exactly on a binary64 number, or exactly between two,
are computed without error.

Main results:

- Definitions `exp`, `log`, `log10`, `log2`, `sin`, `cos`, `tan`, `sinh`, `cosh`,
  `tanh`, `erf`: the functions of one variable.
- Definition `pow`: the power function.
-/

namespace Reshape

namespace Binary64

namespace Extended

/-- The number one. -/
def one : Extended :=
  .ofInt 1

/-- The integer `n` as a fixed-point bound. -/
private def bound (n : Int) : Fixed :=
  n * Fixed.one

/-! ## Exponential and logarithms -/

/-- The exponential of a fixed-point number; past `710` it is infinite and below
`-746` it is zero. -/
def expOfFixed (negative : Bool) (x : Fixed) : Extended :=
  if bound 710 < x then
    infinite negative
  else if x < bound (-746) then
    finite (zero negative)
  else
    ofFixed (if negative then -Fixed.exp x else Fixed.exp x)

/-- The exponential. -/
def exp : Extended → Extended
  | finite x => expOfFixed false (.ofBinary64 x)
  | infinite negative => if negative then finite (zero false) else infinite false
  | nan => nan

/-- A logarithm, given as a function of the natural logarithm. -/
def logBy (f : Fixed → Fixed) : Extended → Extended
  | finite x =>
    if x.isZero then
      infinite true
    else if x.negative then
      nan
    else
      ofFixed (f (.log x))
  | infinite negative => if negative then nan else infinite false
  | nan => nan

/-- The natural logarithm. -/
def log : Extended → Extended :=
  logBy id

/-- The logarithm to base ten. -/
def log10 : Extended → Extended :=
  logBy fun x => .div x (.logParts 10 0)

/-- The logarithm to base two. -/
def log2 : Extended → Extended :=
  logBy fun x => .div x .logTwo

/-! ## Circular functions -/

/-- A function that keeps zeros, is given on the other finite numbers, and is
indeterminate at the infinities. -/
def circular (f : Binary64 → Fixed) : Extended → Extended
  | finite x => if x.isZero then finite x else ofFixed (f x)
  | _ => nan

/-- The sine. -/
def sin : Extended → Extended :=
  circular fun x => (Fixed.sinCos x.units).1

/-- The cosine. -/
def cos : Extended → Extended
  | finite x => ofFixed (Fixed.sinCos x.units).2
  | _ => nan

/-- The tangent. -/
def tan : Extended → Extended :=
  circular fun x =>
    let (s, c) := Fixed.sinCos x.units
    .div s c

/-! ## Hyperbolic functions and the error function -/

/-- An odd function that keeps zeros, is given up to a bound on the size of its argument,
and has the given value beyond it. -/
def saturating (limit : Int) (beyond : Bool → Extended) (f : Fixed → Fixed) :
    Extended → Extended
  | finite x =>
    if x.isZero then
      finite x
    else if bound limit < .ofBinary64 x.abs then
      beyond x.negative
    else
      ofFixed (f (.ofBinary64 x))
  | infinite negative => beyond negative
  | nan => nan

/-- The number one with the given sign. -/
def signedOne (negative : Bool) : Extended :=
  .ofInt (if negative then -1 else 1)

/-- The hyperbolic sine. -/
def sinh : Extended → Extended :=
  saturating 711 infinite fun x => (Fixed.exp x - Fixed.exp (-x)) / 2

/-- The hyperbolic cosine. -/
def cosh : Extended → Extended
  | finite x =>
    if bound 711 < .ofBinary64 x.abs then
      infinite false
    else
      let y : Fixed := .ofBinary64 x
      ofFixed ((Fixed.exp y + Fixed.exp (-y)) / 2)
  | infinite _ => infinite false
  | nan => nan

/-- The hyperbolic tangent, which rounds to one past forty. -/
def tanh : Extended → Extended :=
  saturating 40 signedOne fun x =>
    let up := Fixed.exp x
    let down := Fixed.exp (-x)
    .div (up - down) (up + down)

/-- The error function, which rounds to one past six. -/
def erf : Extended → Extended :=
  saturating 6 signedOne Fixed.erf

/-! ## Powers -/

/-- An odd whole number and a power of two whose product is `n`. -/
def oddPart (n : Nat) (exponent : Int) : Nat × Int :=
  if h : n ≠ 0 ∧ n % 2 = 0 then oddPart (n / 2) (exponent + 1) else (n, exponent)
termination_by n
decreasing_by omega

/-- The square root taken `times` times of an odd number times a power of two, as long as
it stays of that form. -/
def exactRoot? : Nat → Nat × Int → Option (Nat × Int)
  | 0, x => some x
  | times + 1, (odd, exponent) =>
    let root := floorSqrt odd
    if root * root = odd ∧ exponent % 2 = 0 then
      exactRoot? times (root, exponent / 2)
    else
      none

/-- A power of a positive number whose result may need no more than a few times the
bits of a binary64 number: `base ^ power` for an odd number times a power of two. -/
def smallPower? (negative : Bool) (base : Nat × Int) (power : Int) : Option Extended :=
  let exponent := base.2 * power + 1074
  if base.1 = 1 then
    some <|
      if 2200 < exponent then
        infinite negative
      else if exponent < -2 then
        finite (zero negative)
      else
        ofQuotient negative (1 <<< (exponent + 2).toNat) 4
  else if 0 ≤ power ∧ power ≤ 64 then
    let odd := Nat.pow base.1 power.toNat
    some (ofQuotient negative (odd <<< exponent.toNat) (1 <<< (-exponent).toNat))
  else
    none

/-- The power of a positive number other than one to an exponent other than zero, with
the given sign.  The exponent is a whole number over a power of two, so the power is
exact when so many square roots are. -/
def powPositive (negative : Bool) (x y : Binary64) : Extended :=
  let (count, twos) := oddPart y.significand (y.shift - 1074)
  let whole : Int := if y.negative then -(count : Int) else count
  let direct? :=
    (exactRoot? (-twos).toNat (oddPart x.significand (x.shift - 1074))).bind fun base =>
      if 64 < twos then none
      else smallPower? negative base (whole * (1 <<< twos.toNat : Nat))
  direct?.getD (expOfFixed negative (.mul (.ofBinary64 y) (.log x)))

/-- A whole number that is odd. -/
def isOdd (x : Binary64) : Bool :=
  x.isWhole && x.truncate % 2 == 1

/-- The power of finite numbers.  Every number to the power zero and one to every power
are one; a negative number has powers to whole exponents only. -/
def pow : Extended → Extended → Extended
  | finite x, finite y =>
    if y.isZero || x.units == unitsPerOne then
      one
    else
      let negative := x.negative && isOdd y
      if x.isZero then
        if y.negative then infinite negative else finite (zero negative)
      else if x.negative && !y.isWhole then
        nan
      else if x.magnitude == unitsPerOne then
        signedOne negative
      else
        powPositive negative x.abs y
  | _, _ => nan

end Extended

end Binary64

end Reshape
