/-!
# Finite binary64 numbers

A finite binary64 number is an integer multiple of `2 ^ -1074`, the smallest
positive one.  This file stores such a number as a sign, a significand of at
most 53 bits and a shift, with the conditions that make the storage unique as
fields.  Every exact computation on numbers is then a computation on `units`,
the integer that counts how many multiples of `2 ^ -1074` a number holds.

Results of arithmetic may leave the finite numbers; `Extended` adds the two
infinities and the indeterminate value.

Main results:

- Theorem `ofParts_eq_finite`: parts that meet the storage conditions are stored
  as they are.
- Theorem `magnitude_eq_zero_iff`: only the two zeros have no units.
-/

namespace Reshape

/-- A finite binary64 number.  Its magnitude is `significand * 2 ^ shift` units of
`2 ^ -1074`, and a shift is used only once the significand has all its 53 bits.
The bounds are `2 ^ 53`, the largest shift `2045` and `2 ^ 52`. -/
structure Binary64 where
  negative : Bool
  significand : Nat
  shift : Nat
  significand_lt : significand < 0x20000000000000
  shift_le : shift ≤ 2045
  shift_eq_zero_or_le : shift = 0 ∨ 0x10000000000000 ≤ significand
deriving DecidableEq

namespace Binary64

/-! ## Views -/

/-- The zero with the given sign. -/
def zero (negative : Bool) : Binary64 where
  negative := negative
  significand := 0
  shift := 0
  significand_lt := by decide
  shift_le := by decide
  shift_eq_zero_or_le := .inl rfl

/-- The size of a number, counted in units of `2 ^ -1074`. -/
def magnitude (x : Binary64) : Nat :=
  x.significand <<< x.shift

/-- The value of a number, counted in units of `2 ^ -1074`. -/
def units (x : Binary64) : Int :=
  if x.negative then -(x.magnitude : Int) else x.magnitude

/-- How many units make the number one: `2 ^ 1074`. -/
def unitsPerOne : Nat :=
  1 <<< 1074

/-- Either zero. -/
def isZero (x : Binary64) : Bool :=
  x.significand == 0

/-- The same number with the other sign. -/
def negate (x : Binary64) : Binary64 :=
  { x with negative := !x.negative }

/-- The same number without its sign. -/
def abs (x : Binary64) : Binary64 :=
  { x with negative := false }

@[simp]
theorem magnitude_zero (negative : Bool) : (zero negative).magnitude = 0 :=
  rfl

@[simp]
theorem magnitude_negate (x : Binary64) : x.negate.magnitude = x.magnitude :=
  rfl

@[simp]
theorem magnitude_abs (x : Binary64) : x.abs.magnitude = x.magnitude :=
  rfl

/-- Only the two zeros have no units. -/
theorem magnitude_eq_zero_iff (x : Binary64) : x.magnitude = 0 ↔ x.significand = 0 := by
  have := Nat.two_pow_pos x.shift
  rw [magnitude, Nat.shiftLeft_eq, Nat.mul_eq_zero]
  omega

/-! ## Numbers with the infinities -/

/-- A finite number, an infinity or the indeterminate value. -/
inductive Extended where
  | finite (value : Binary64)
  | infinite (negative : Bool)
  | nan
deriving DecidableEq

namespace Extended

/-- The finite number inside, if there is one. -/
def finite? : Extended → Option Binary64
  | finite x => some x
  | _ => none

/-- Neither an infinity nor indeterminate. -/
def isFinite : Extended → Bool
  | finite _ => true
  | _ => false

/-- Indeterminate. -/
def isNan : Extended → Bool
  | nan => true
  | _ => false

/-- Either zero. -/
def isZero : Extended → Bool
  | finite x => x.isZero
  | _ => false

/-- The same value with the other sign. -/
def negate : Extended → Extended
  | finite x => finite x.negate
  | infinite negative => infinite !negative
  | nan => nan

/-- The same value without its sign. -/
def abs : Extended → Extended
  | finite x => finite x.abs
  | infinite _ => infinite false
  | nan => nan

/-- The number with the given parts, or an infinity when the parts are no stored
number because the shift is too large. -/
def ofParts (negative : Bool) (significand shift : Nat) : Extended :=
  if h : significand < 0x20000000000000 ∧ shift ≤ 2045 ∧
      (shift = 0 ∨ 0x10000000000000 ≤ significand) then
    finite ⟨negative, significand, shift, h.1, h.2.1, h.2.2⟩
  else
    infinite negative

/-- Parts that meet the storage conditions are stored as they are. -/
theorem ofParts_eq_finite (x : Binary64) :
    ofParts x.negative x.significand x.shift = finite x := by
  have h := And.intro x.significand_lt (And.intro x.shift_le x.shift_eq_zero_or_le)
  simp [ofParts, h]

end Extended

end Binary64

end Reshape
