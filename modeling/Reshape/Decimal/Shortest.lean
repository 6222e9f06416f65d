import Reshape.Decimal.Basic

/-!
# Shortest decimals

The text of a binary64 number is built from the shortest decimal that rounds to
it.  For one digit, two digits and so on up to seventeen, the two neighbours of the
number among the decimals of that length are tried, the nearer one first; the first
that rounds back to the number is taken.

Main results:

- Theorem `readsBack_of_findShortest?`: what the search finds rounds back.
- Definition `Binary64.shortest`: the decimal that is printed.
-/

namespace Reshape

namespace Binary64

/-! ## Decimal neighbours -/

/-- The exponent of the first decimal digit of a number other than zero. -/
def decimalExponent (x : Binary64) : Int :=
  let whole := x.magnitude / unitsPerOne
  if whole = 0 then
    -(Decimal.digitCount ((unitsPerOne - 1) / x.magnitude) : Int)
  else
    (Decimal.digitCount whole : Int) - 1

/-- The decimals with the given exponent next to a number, the nearer one first and
the even one first when both are equally near. -/
def neighbours (x : Binary64) (exponent : Int) : List Decimal :=
  let num := x.magnitude * Nat.pow 10 (-exponent).toNat
  let den := unitsPerOne * Nat.pow 10 exponent.toNat
  let lower := num / den
  if roundHalfEven num den = lower then
    [⟨lower, exponent⟩, ⟨lower + 1, exponent⟩]
  else
    [⟨lower + 1, exponent⟩, ⟨lower, exponent⟩]

/-! ## The search -/

/-- A decimal that is rounded to the number without its sign. -/
def readsBack (x : Binary64) (d : Decimal) : Bool :=
  decide (d.toExtended x.negative = .finite x)

/-- The first decimal of at most seventeen digits that reads back. -/
def findShortest? (x : Binary64) : Option Decimal :=
  (List.range 17).findSome? fun (extra : Nat) =>
    (neighbours x (x.decimalExponent - extra)).find? (readsBack x)

/-- All digits of a number: a multiple of `2 ^ -1074` is one of `10 ^ -1074`. -/
def exactDecimal (x : Binary64) : Decimal :=
  ⟨x.magnitude * Nat.pow 5 1074, -1074⟩

/-- The shortest decimal that rounds to the number, in normal form. -/
def shortest (x : Binary64) : Decimal :=
  ((findShortest? x).getD x.exactDecimal).normalize

/-- What the search finds rounds back. -/
theorem readsBack_of_findShortest? {x : Binary64} {d : Decimal}
    (h : findShortest? x = some d) : d.toExtended x.negative = .finite x := by
  obtain ⟨_, _, hf⟩ := List.exists_of_findSome?_eq_some h
  exact of_decide_eq_true (List.find?_some (p := readsBack x) hf)

end Binary64

end Reshape
