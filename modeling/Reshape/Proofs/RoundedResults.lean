import Reshape.Binary64.Arithmetic
import Reshape.Proofs.NearestDecimals

/-!
# Rounded results of arithmetic

A sum, a difference and a product of binary64 numbers are computed exactly and then rounded once.
So the result is the nearest number of the exact one, or an infinity of its sign when the exact
result lies out of range.

Main results:

- Definition `Extended.IsRounded`: what an exact result has to be rounded to.
- Theorem `Extended.isRounded_ofQuotient`: every quotient of units is rounded like this.
- Theorems `Extended.isRounded_add`, `Extended.isRounded_sub` and `Extended.isRounded_mul`: so are
  the results of arithmetic.
- Theorem `Extended.isRounded_ofInt`: and integers.
-/

namespace Reshape

namespace Binary64

/-- A shifted one is not zero. -/
theorem one_shiftLeft_pos (shift : Nat) : 0 < 1 <<< shift := by
  rw [Nat.one_shiftLeft]
  exact Nat.two_pow_pos shift

/-- The number one has some units. -/
theorem unitsPerOne_pos : 0 < unitsPerOne :=
  one_shiftLeft_pos 1074

/-- The number one has `2 ^ 1074` units. -/
theorem cast_unitsPerOne {R : Type*} [Semiring R] : (unitsPerOne : R) = 2 ^ 1074 := by
  simp only [unitsPerOne, Nat.one_shiftLeft, Nat.cast_pow, Nat.cast_ofNat]

/-! ## Values with a sign -/

/-- An integer is its size with its sign. -/
theorem signed_natAbs (n : Int) : signed (decide (n < 0)) n.natAbs = n := by
  rw [Nat.cast_natAbs]
  by_cases hn : n < 0
  · simp [signed, hn, abs_of_neg]
  · simp [signed, hn, abs_of_nonneg (not_lt.mp hn)]

/-- The sign of a quotient by a size that has none. -/
theorem signed_div (negative : Bool) (p q : ℚ) :
    signed negative (p / q) = signed negative p / q := by
  unfold signed
  split
  · rw [neg_div]
  · rfl

/-- The sign of a product. -/
theorem signed_mul_signed (s t : Bool) (p q : ℚ) :
    signed s p * signed t q = signed (s ^^ t) (p * q) := by
  cases s <;> cases t <;> simp [signed]

/-- A number with the other sign has the negated value. -/
theorem value_negate (x : Binary64) : x.negate.value = -x.value := by
  rw [value_eq_signed, value_eq_signed, magnitude_negate, negate]
  cases x.negative <;> simp [signed]

/-- The value of a number without its sign. -/
theorem value_abs (x : Binary64) : x.abs.value = |x.value| := by
  have hsize : (0 : ℚ) ≤ x.magnitude / 2 ^ 1074 :=
    div_nonneg (Nat.cast_nonneg _) (pow_nonneg two_pos.le _)
  rw [value_eq_signed, value_eq_signed, abs_signed, magnitude_abs, abs_of_nonneg hsize]
  rfl

/-- A nearest number is not more than twice as large as the value, or zero would be nearer. -/
theorem IsNearest.abs_value_le {v : ℚ} {x : Binary64} (h : IsNearest v x) :
    |x.value| ≤ 2 * |v| := by
  have hzero : (zero false).value = 0 := by simp [value, units]
  have hclosest := h.closest (zero false)
  rw [hzero, sub_zero] at hclosest
  calc |x.value| = |v - (v - x.value)| := by rw [sub_sub_cancel]
    _ ≤ |v| + |v - x.value| := abs_sub _ _
    _ ≤ 2 * |v| := by linarith

namespace Extended

/-! ## Rounded values -/

/-- What a value is rounded to: the number that is nearest to it, or an infinity with its sign from
half-way between the largest number and the next power of two on. -/
inductive IsRounded (v : ℚ) : Extended → Prop
  | nearest {x : Binary64} (h : IsNearest v x) : IsRounded v (finite x)
  | beyond {negative : Bool} (h : (2 ^ 54 - 1) * 2 ^ 970 ≤ signed negative v) :
    IsRounded v (infinite negative)

/-- Within the range a value is rounded to a number. -/
theorem IsRounded.exists_finite {v : ℚ} {result : Extended} (h : IsRounded v result)
    (hv : |v| < (2 ^ 54 - 1) * 2 ^ 970) : ∃ x, result = finite x ∧ IsNearest v x := by
  cases h with
  | @nearest x hnearest => exact ⟨x, rfl, hnearest⟩
  | beyond hlarge =>
    have hle := hlarge.trans (le_abs_self _)
    rw [abs_signed] at hle
    exact absurd hv hle.not_gt

/-- What is rounded to a number is rounded to the nearest one. -/
theorem IsRounded.isNearest {v : ℚ} {x : Binary64} (h : IsRounded v (finite x)) :
    IsNearest v x := by
  cases h with
  | nearest hnearest => exact hnearest

/-- Values of moderate size are rounded to numbers. -/
theorem IsRounded.exists_finite_of_le {v : ℚ} {result : Extended} (h : IsRounded v result)
    (hv : |v| ≤ 2 ^ 128) : ∃ x, result = finite x ∧ IsNearest v x := by
  have hlarge : (2 : ℚ) ^ 128 ≤ 2 ^ 970 := pow_le_pow_right₀ one_le_two (by omega)
  apply h.exists_finite
  generalize (2 : ℚ) ^ 970 = unit at *
  linarith

/-- Parts are those of a number or of an infinity with the given sign. -/
theorem exists_ofParts_eq (negative : Bool) (significand shift : Nat) :
    (∃ x, ofParts negative significand shift = finite x) ∨
      ofParts negative significand shift = infinite negative := by
  unfold ofParts
  split
  · exact .inl ⟨_, rfl⟩
  · exact .inr rfl

/-- Quotients are rounded to a number or to an infinity with the given sign. -/
theorem exists_ofQuotient_eq (negative : Bool) (num den : Nat) :
    (∃ x, ofQuotient negative num den = finite x) ∨
      ofQuotient negative num den = infinite negative := by
  unfold ofQuotient
  dsimp only
  split <;> exact exists_ofParts_eq _ _ _

/-- A quotient of units is rounded. -/
theorem isRounded_ofQuotient (negative : Bool) (num : Nat) {den : Nat} (hden : 0 < den) :
    IsRounded (signed negative (num / den / 2 ^ 1074)) (ofQuotient negative num den) := by
  have hsize : (0 : ℚ) ≤ num / den := div_nonneg (Nat.cast_nonneg _) (Nat.cast_nonneg _)
  obtain ⟨x, hx⟩ | hinfinite := exists_ofQuotient_eq negative num den
  · obtain ⟨rfl, hnearest⟩ := (ofQuotient_eq_finite_iff hden).mp hx
    rw [hx]
    exact .nearest (hnearest.isNearest hsize)
  · have hlarge : ¬|signed negative (num / den / 2 ^ 1074)| < (2 ^ 54 - 1) * 2 ^ 970 := by
      rw [abs_signed_lt_iff hsize]
      intro hlt
      obtain ⟨x, hx⟩ := exists_ofQuotient_eq_finite negative hden hlt
      rw [hx] at hinfinite
      cases hinfinite
    have hsame : signed negative (signed negative (num / den / 2 ^ 1074 : ℚ)) =
        |signed negative (num / den / 2 ^ 1074)| := by
      rw [abs_signed, abs_of_nonneg (div_nonneg hsize (pow_nonneg two_pos.le _))]
      cases negative <;> simp [signed]
    rw [hinfinite]
    refine .beyond ?_
    rw [hsame]
    exact not_lt.mp hlarge

/-- A whole number of units is rounded. -/
theorem isRounded_ofUnits (zeroSign : Bool) (n : Int) :
    IsRounded (n / 2 ^ 1074) (ofUnits zeroSign n) := by
  have hrounded := isRounded_ofQuotient (if n = 0 then zeroSign else n < 0) n.natAbs Nat.one_pos
  have hvalue : signed (if n = 0 then zeroSign else decide (n < 0)) n.natAbs = n := by
    by_cases hn : n = 0
    · simp [hn, signed]
    · rw [if_neg hn, signed_natAbs]
  rwa [Nat.cast_one, div_one, signed_div, hvalue] at hrounded

/-- A shifted integer is rounded. -/
theorem isRounded_shiftLeft (n : Int) (shift : Nat) :
    IsRounded (n * 2 ^ shift / 2 ^ 1074) (ofQuotient (n < 0) (n.natAbs <<< shift) 1) := by
  have hrounded := isRounded_ofQuotient (n < 0) (n.natAbs <<< shift) Nat.one_pos
  have hunits : ((n.natAbs <<< shift : ℕ) / (1 : ℕ) / 2 ^ 1074 : ℚ) =
      n.natAbs / (2 ^ 1074 / 2 ^ shift) := by
    rw [Nat.shiftLeft_eq, Nat.cast_one, div_one, Nat.cast_mul, Nat.cast_pow, Nat.cast_ofNat,
      div_div_eq_mul_div]
  rwa [hunits, signed_div, signed_natAbs, div_div_eq_mul_div] at hrounded

/-- An integer is rounded. -/
theorem isRounded_ofInt (n : Int) : IsRounded n (ofInt n) := by
  have hpos : (0 : ℚ) < 2 ^ 1074 := pow_pos two_pos 1074
  have hrounded := isRounded_shiftLeft n 1074
  rwa [mul_div_cancel_right₀ _ hpos.ne'] at hrounded

/-! ## Arithmetic -/

/-- The sum is the rounded sum of the values. -/
theorem isRounded_add (x y : Binary64) :
    IsRounded (x.value + y.value) ((finite x).add (finite y)) := by
  have hsum : x.value + y.value = ((x.units + y.units : ℤ) : ℚ) / 2 ^ 1074 := by
    rw [value, value, Int.cast_add, add_div]
  rw [hsum]
  exact isRounded_ofUnits _ _

/-- The difference is the rounded difference of the values. -/
theorem isRounded_sub (x y : Binary64) :
    IsRounded (x.value - y.value) ((finite x).sub (finite y)) := by
  have hsum := isRounded_add x y.negate
  rwa [value_negate, ← sub_eq_add_neg] at hsum

/-- The product is the rounded product of the values. -/
theorem isRounded_mul (x y : Binary64) :
    IsRounded (x.value * y.value) ((finite x).mul (finite y)) := by
  have hvalue : x.value * y.value = signed (x.negative ^^ y.negative)
      (((x.magnitude * y.magnitude : ℕ) : ℚ) / unitsPerOne / 2 ^ 1074) := by
    rw [value_eq_signed, value_eq_signed, signed_mul_signed, cast_unitsPerOne, Nat.cast_mul]
    generalize (2 : ℚ) ^ 1074 = unit
    rw [div_mul_div_comm, div_div]
  rw [hvalue]
  exact isRounded_ofQuotient _ _ unitsPerOne_pos

end Extended

end Binary64

end Reshape
