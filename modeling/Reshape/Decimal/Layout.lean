import Reshape.Decimal.Shortest

/-!
# Layout of binary64 numbers

A number is written with the digits of its shortest decimal.  When its first digit
stands for `10 ^ -5` to `10 ^ 15` the digits are laid out around the point and there
is always a fraction; otherwise the first digit stands alone before the point and
the exponent follows with its sign.

Main results:

- Definition `Binary64.render`: the text of a number.
-/

namespace Reshape

namespace Decimal

/-- Exponents of the first digit that are laid out around the point. -/
def isPositional (leading : Int) : Bool :=
  -5 ≤ leading && leading ≤ 15

/-- Digits around the point, with at least one digit on each side. -/
def renderPositional (digits : List Char) (exponent leading : Int) : List Char :=
  if 0 ≤ exponent then
    digits ++ List.replicate exponent.toNat '0' ++ ['.', '0']
  else if 0 ≤ leading then
    digits.take (leading.toNat + 1) ++ '.' :: digits.drop (leading.toNat + 1)
  else
    '0' :: '.' :: List.replicate (-leading - 1).toNat '0' ++ digits

/-- One digit before the point, no point without further digits, and a signed
exponent. -/
def renderScientific (digits : List Char) (leading : Int) : List Char :=
  let fraction := digits.drop 1
  digits.take 1 ++ (if fraction.isEmpty then [] else '.' :: fraction) ++
    'e' :: (if leading < 0 then '-' else '+') :: Nat.toDigits 10 leading.natAbs

/-- The text of a decimal in normal form. -/
def render (d : Decimal) : List Char :=
  let digits := Nat.toDigits 10 d.digits
  let leading := d.exponent + digits.length - 1
  if isPositional leading then
    renderPositional digits d.exponent leading
  else
    renderScientific digits leading

end Decimal

namespace Binary64

/-- The text of a number: a minus sign if it has one, and its shortest decimal. -/
def render (x : Binary64) : List Char :=
  (if x.negative then ['-'] else []) ++ x.shortest.render

end Binary64

end Reshape
