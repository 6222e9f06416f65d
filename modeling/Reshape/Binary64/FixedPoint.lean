import Reshape.Binary64.Arithmetic

/-!
# Fixed-point numbers

Functions such as `exp` and `sin` are computed on fixed-point numbers, integers that
count multiples of `2 ^ -1536`, and rounded to binary64 once at the end.  The spacing
is finer than that of the smallest binary64 numbers by more than four hundred bits,
so the small error of a fixed-point result does not reach the rounding.

Main results:

- Definitions `exp`, `log`, `sinCos`, `erf`: the series.
- Definition `Extended.ofFixed`: the final rounding.
-/

namespace Reshape

/-- A number counted in multiples of `2 ^ -1536`. -/
abbrev Fixed := Int

namespace Fixed

/-! ## Basic operations -/

/-- The number one. -/
def one : Fixed :=
  1 <<< 1536

/-- The product, rounded down. -/
def mul (x y : Fixed) : Fixed :=
  x * y / one

/-- The quotient, rounded down for a positive divisor. -/
def div (x y : Fixed) : Fixed :=
  x * one / y

/-- Multiplication by a power of two, rounded down. -/
def scale (x : Fixed) (exponent : Int) : Fixed :=
  if 0 ≤ exponent then x * (1 <<< exponent.toNat : Nat) else x / (1 <<< (-exponent).toNat : Nat)

/-- The value of a binary64 number: one unit is `2 ^ 462` multiples of `2 ^ -1536`. -/
def ofBinary64 (x : Binary64) : Fixed :=
  x.units * (1 <<< 462 : Nat)

/-- Horner evaluation of `a 0 + x * (a 1 + x * (a 2 + ...))` with `count` coefficients. -/
def horner (count : Nat) (coefficient : Nat → Fixed) (x : Fixed) : Fixed :=
  (List.range count).foldr (fun k tail => coefficient k + mul x tail) 0

/-! ## Exponential and logarithm -/

/-- The inverse hyperbolic tangent of a number of size at most one third, by the series
`z + z ^ 3 / 3 + z ^ 5 / 5 + ...`. -/
def artanh (z : Fixed) : Fixed :=
  mul z (horner 500 (fun k => one / (2 * k + 1)) (mul z z))

/-- The natural logarithm of two. -/
def logTwo : Fixed :=
  2 * artanh (one / 3)

/-- The natural logarithm of `significand * 2 ^ exponent`.  The significand is brought
between one and two, where its logarithm is twice the inverse hyperbolic tangent of
`(m - 1) / (m + 1)`. -/
def logParts (significand : Nat) (exponent : Int) : Fixed :=
  let bits := significand.log2
  let m := scale ((significand : Int) * one) (-(bits : Int))
  2 * artanh (div (m - one) (m + one)) + (exponent + bits) * logTwo

/-- The natural logarithm of a positive binary64 number. -/
def log (x : Binary64) : Fixed :=
  logParts x.significand (x.shift - 1074)

/-- The exponential of a number of size at most one, each term divided on the way out of
`1 + r / 1 * (1 + r / 2 * (1 + ...))`. -/
def expSeries (r : Fixed) : Fixed :=
  (List.range 250).foldr (fun (k : Nat) tail => one + mul r tail / (k + 1)) one

/-- The exponential.  Whole multiples of the logarithm of two become a power of two. -/
def exp (x : Fixed) : Fixed :=
  let k := x / logTwo
  scale (expSeries (x - k * logTwo)) k

/-! ## Circular functions -/

/-- `2 ^ 2800` times the inverse tangent of `1 / n`, as `1 / n - 1 / (3 * n ^ 3) + ...`. -/
def arctanInverse (n : Nat) : Int :=
  let start : Nat := (1 <<< 2800) / n
  ((List.range 700).foldl
    (fun (sum, power) k =>
      let term : Int := power / (2 * k + 1)
      (if k % 2 = 0 then sum + term else sum - term, power / (n * n)))
    ((0 : Int), (start : Int))).1

/-- `2 ^ 2800` times half of pi: two times `4 * arctan (1 / 5) - arctan (1 / 239)`. -/
def halfPi : Int :=
  2 * (4 * arctanInverse 5 - arctanInverse 239)

/-- The sine of a number of size at most one. -/
def sinSeries (x : Fixed) : Fixed :=
  let square := mul x x
  mul x ((List.range 150).foldr
    (fun (k : Nat) tail => one - mul square tail / ((2 * k + 2) * (2 * k + 3))) one)

/-- The cosine of a number of size at most one. -/
def cosSeries (x : Fixed) : Fixed :=
  let square := mul x x
  (List.range 150).foldr
    (fun (k : Nat) tail => one - mul square tail / ((2 * k + 1) * (2 * k + 2))) one

/-- The sine and the cosine of an angle counted in units of `2 ^ -1074`.  The nearest
multiple of half of pi is taken off first, with enough places of pi for the largest
binary64 number. -/
def sinCos (units : Int) : Fixed × Fixed :=
  let angle := units * (1 <<< 1726 : Nat)
  let quarter := (2 * angle + halfPi) / (2 * halfPi)
  let rest := (angle - quarter * halfPi) / (1 <<< 1264 : Nat)
  let sin := sinSeries rest
  let cos := cosSeries rest
  match quarter % 4 with
  | 0 => (sin, cos)
  | 1 => (cos, -sin)
  | 2 => (-sin, -cos)
  | _ => (-cos, sin)

/-! ## The error function -/

/-- The square root of pi. -/
def sqrtPi : Fixed :=
  Binary64.floorSqrt ((2 * halfPi).toNat <<< 272)

/-- The error function of a number of size at most six, by the series
`2 / sqrt pi * (x - x ^ 3 / (1! * 3) + x ^ 5 / (2! * 5) - ...)`. -/
def erf (x : Fixed) : Fixed :=
  let square := mul x x
  let sum := ((List.range 650).foldl
    (fun (sum, power) (k : Nat) =>
      (sum + power / (2 * k + 1), -(mul power square) / (k + 1)))
    ((0 : Fixed), x)).1
  div (2 * sum) sqrtPi

end Fixed

/-- The binary64 number nearest to a fixed-point number. -/
def Binary64.Extended.ofFixed (x : Fixed) : Extended :=
  ofQuotient (x < 0) x.natAbs (1 <<< 462)

end Reshape
