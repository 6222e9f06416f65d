import Mathlib.Algebra.Order.Field.Power
import Reshape.Decimal.Shortest
import Reshape.Proofs.RoundedQuotients

/-!
# Nearest numbers of decimals

A decimal with a sign stands for a rational number, and so does every binary64 number.
The one that a decimal is rounded to is nearest to it, with an even significand where two
are equally near, and there is none exactly for the values from half-way between the
largest number and the next power of two on.  Nothing but the value of a decimal counts,
so every way to write the digits of a number reads back as the number.

Main results:

- Definition `Binary64.IsNearest`: the number that a value has to be rounded to.
- Theorem `Decimal.toExtended_eq_finite_iff`: a decimal is rounded to the nearest number.
- Theorem `Binary64.toExtended_shortest`: the shortest decimal of a number reads back.
-/

namespace Reshape

namespace Binary64

/-- A size below half a unit is nearest to nothing but the zeros. -/
theorem nearestSize_iff_of_lt_half {q : ℚ} {x : Binary64} (hq : 0 ≤ q) (hhalf : q < 1 / 2) :
    NearestSize q x ↔ x.magnitude = 0 := by
  have hnext : ∀ n : ℕ, n ≠ 0 → q < |q - n| := by
    intro n hn
    have : (1 : ℚ) ≤ n := by exact_mod_cast Nat.one_le_iff_ne_zero.mpr hn
    rw [abs_of_neg (by linarith)]
    linarith
  constructor
  · intro h
    by_contra hne
    have hzero := h.closest (zero false)
    have hlt := hnext x.magnitude hne
    rw [magnitude_zero, Nat.cast_zero, sub_zero, abs_of_nonneg hq] at hzero
    linarith
  · intro h
    have hx : |q - x.magnitude| = q := by
      rw [h, Nat.cast_zero, sub_zero, abs_of_nonneg hq]
    refine ⟨fun y => ?_, fun y hne htie => ?_, ?_⟩
    · rw [hx]
      by_cases hy : y.magnitude = 0
      · rw [hy, Nat.cast_zero, sub_zero, abs_of_nonneg hq]
      · exact (hnext _ hy).le
    · have hlt := hnext y.magnitude (h ▸ hne)
      rw [htie, hx] at hlt
      exact absurd hlt (lt_irrefl q)
    · have : (1 : ℚ) ≤ 2 ^ 2044 := one_le_pow₀ one_le_two
      unfold Extended.limit
      generalize (2 : ℚ) ^ 2044 = unit at *
      linarith

/-! ## Nearest numbers -/

/-- The value of a number. -/
def value (x : Binary64) : ℚ :=
  x.units / 2 ^ 1074

/-- A number that is nearest to a value, with an even significand if another one is equally near.
Half-way between the largest number and the next power of two the values leave the range. -/
structure IsNearest (v : ℚ) (x : Binary64) : Prop where
  closest (y : Binary64) : |v - x.value| ≤ |v - y.value|
  even_of_tie (y : Binary64) (hne : y.value ≠ x.value)
    (htie : |v - y.value| = |v - x.value|) : x.significand % 2 = 0
  lt_limit : |v| < (2 ^ 54 - 1) * 2 ^ 970

/-- A size with a sign. -/
def signed (negative : Bool) (q : ℚ) : ℚ :=
  if negative then -q else q

/-- The value of a number is its size with its sign. -/
theorem value_eq_signed (x : Binary64) :
    x.value = signed x.negative (x.magnitude / 2 ^ 1074) := by
  unfold value signed units
  split
  · rw [Int.cast_neg, Int.cast_natCast, neg_div]
  · rw [Int.cast_natCast]

/-- A size is not changed by its sign. -/
theorem abs_signed (negative : Bool) (q : ℚ) : |signed negative q| = |q| := by
  unfold signed
  split
  · rw [abs_neg]
  · rfl

/-- The distance to a size with the same sign. -/
theorem abs_signed_sub_signed (negative : Bool) (p q : ℚ) :
    |signed negative p - signed negative q| = |p - q| := by
  unfold signed
  split
  · rw [neg_sub_neg, abs_sub_comm]
  · rfl

/-- The distance to a size with the other sign. -/
theorem abs_signed_sub_signed_not {p q : ℚ} (hp : 0 ≤ p) (hq : 0 ≤ q) (negative : Bool) :
    |signed negative p - signed (!negative) q| = p + q := by
  have hsum : 0 ≤ p + q := add_nonneg hp hq
  cases negative
  · have hdist : signed false p - signed (!false) q = p + q := sub_neg_eq_add p q
    rw [hdist, abs_of_nonneg hsum]
  · have hdist : signed true p - signed (!true) q = -(p + q) := (neg_add' p q).symm
    rw [hdist, abs_neg, abs_of_nonneg hsum]

/-- A number with the given sign lies at the distance of the sizes. -/
theorem abs_signed_sub_value {q : ℚ} {y : Binary64} {negative : Bool}
    (hsign : y.negative = negative) :
    |signed negative (q / 2 ^ 1074) - y.value| = |q - y.magnitude| / 2 ^ 1074 := by
  have hpos : (0 : ℚ) < 2 ^ 1074 := pow_pos two_pos 1074
  rw [value_eq_signed, hsign, abs_signed_sub_signed, ← sub_div, abs_div, abs_of_pos hpos]

/-- A number with the other sign lies as far away as both sizes together. -/
theorem abs_signed_sub_value_of_ne {q : ℚ} (hq : 0 ≤ q) {y : Binary64} {negative : Bool}
    (hsign : y.negative ≠ negative) :
    |signed negative (q / 2 ^ 1074) - y.value| = (q + y.magnitude) / 2 ^ 1074 := by
  have hpos : (0 : ℚ) < 2 ^ 1074 := pow_pos two_pos 1074
  rw [value_eq_signed, Bool.eq_not_of_ne hsign, abs_signed_sub_signed_not, add_div]
  · exact div_nonneg hq hpos.le
  · exact div_nonneg (Nat.cast_nonneg _) hpos.le

/-- Numbers of one sign and one size have one value. -/
theorem value_eq_iff_of_sign {x y : Binary64} (hsign : y.negative = x.negative) :
    y.value = x.value ↔ y.magnitude = x.magnitude := by
  have hpos : (0 : ℚ) < 2 ^ 1074 := pow_pos two_pos 1074
  rw [← sub_eq_zero, ← abs_eq_zero, value_eq_signed x, value_eq_signed y, hsign,
    abs_signed_sub_signed, ← sub_div, abs_eq_zero, div_eq_zero_iff, or_iff_left hpos.ne',
    sub_eq_zero, Nat.cast_inj]

/-- The values with a sign leave the range where the sizes do. -/
theorem abs_signed_lt_iff {q : ℚ} (hq : 0 ≤ q) (negative : Bool) :
    |signed negative (q / 2 ^ 1074)| < (2 ^ 54 - 1) * 2 ^ 970 ↔ q < Extended.limit := by
  have hpos : (0 : ℚ) < 2 ^ 1074 := pow_pos two_pos 1074
  have hpow : (2 : ℚ) ^ 2044 = 2 ^ 970 * 2 ^ 1074 := by rw [← pow_add]
  have hsize : 0 ≤ q / 2 ^ 1074 := div_nonneg hq hpos.le
  rw [abs_signed, abs_of_nonneg hsize, div_lt_iff₀ hpos, Extended.limit, hpow, mul_assoc]

/-- A nearest number has a nearest size.  Only the numbers of its sign are needed to see it. -/
theorem IsNearest.nearestSize {q : ℚ} (hq : 0 ≤ q) {x : Binary64}
    (h : IsNearest (signed x.negative (q / 2 ^ 1074)) x) : NearestSize q x := by
  have hpos : (0 : ℚ) < 2 ^ 1074 := pow_pos two_pos 1074
  have hx := abs_signed_sub_value (q := q) (y := x) rfl
  have hsame : ∀ y : Binary64, |signed x.negative (q / 2 ^ 1074) -
      ({ y with negative := x.negative } : Binary64).value| = |q - y.magnitude| / 2 ^ 1074 :=
    fun y => abs_signed_sub_value (y := { y with negative := x.negative }) rfl
  refine ⟨fun y => ?_, fun y hne htie => ?_, (abs_signed_lt_iff hq _).mp h.lt_limit⟩
  · have hclosest := h.closest { y with negative := x.negative }
    rwa [hx, hsame, div_le_div_iff_of_pos_right hpos] at hclosest
  · apply h.even_of_tie { y with negative := x.negative }
    · have hsign : ({ y with negative := x.negative } : Binary64).negative = x.negative := rfl
      rw [ne_eq, value_eq_iff_of_sign hsign]
      exact hne
    · rw [hx, hsame, htie]

/-- A number with a nearest size is nearest among the numbers of both signs. -/
theorem NearestSize.isNearest {q : ℚ} (hq : 0 ≤ q) {x : Binary64} (h : NearestSize q x) :
    IsNearest (signed x.negative (q / 2 ^ 1074)) x := by
  have hpos : (0 : ℚ) < 2 ^ 1074 := pow_pos two_pos 1074
  have hx := abs_signed_sub_value (q := q) (y := x) rfl
  have hzero : |q - x.magnitude| ≤ q := by
    have := h.closest (zero false)
    rwa [magnitude_zero, Nat.cast_zero, sub_zero, abs_of_nonneg hq] at this
  refine ⟨fun y => ?_, fun y hne htie => ?_, (abs_signed_lt_iff hq _).mpr h.lt_limit⟩
  · rw [hx]
    by_cases hsign : y.negative = x.negative
    · rw [abs_signed_sub_value hsign, div_le_div_iff_of_pos_right hpos]
      exact h.closest y
    · rw [abs_signed_sub_value_of_ne hq hsign, div_le_div_iff_of_pos_right hpos]
      exact hzero.trans (le_add_of_nonneg_right (Nat.cast_nonneg _))
  · by_cases hsign : y.negative = x.negative
    · rw [hx, abs_signed_sub_value hsign, div_left_inj' hpos.ne'] at htie
      exact h.even_of_tie y (fun heq => hne ((value_eq_iff_of_sign hsign).mpr heq)) htie
    · -- Across the signs only zero can be equally near.
      rw [hx, abs_signed_sub_value_of_ne hq hsign, div_left_inj' hpos.ne'] at htie
      have hy : (y.magnitude : ℚ) = 0 := le_antisymm (by linarith) (Nat.cast_nonneg _)
      have hy' : y.magnitude = 0 := by exact_mod_cast hy
      apply h.even_of_tie y
      · intro heq
        apply hne
        rw [value_eq_signed, value_eq_signed, ← heq, hy']
        simp [signed]
      · rw [← htie, hy, sub_zero, add_zero, abs_of_nonneg hq]

/-- The nearest numbers are the ones with a nearest size. -/
theorem isNearest_signed_iff {q : ℚ} (hq : 0 ≤ q) (x : Binary64) :
    IsNearest (signed x.negative (q / 2 ^ 1074)) x ↔ NearestSize q x :=
  ⟨fun h => h.nearestSize hq, fun h => h.isNearest hq⟩

end Binary64

/-! ## Decimals -/

namespace Decimal

/-- The number that a decimal stands for. -/
def value (d : Decimal) : ℚ :=
  d.digits * 10 ^ d.exponent

/-- A decimal stands for no negative number. -/
theorem value_nonneg (d : Decimal) : 0 ≤ d.value :=
  mul_nonneg (Nat.cast_nonneg _) (zpow_nonneg (by norm_num) _)

/-- Taking trailing zeros off keeps the value, and positive digits positive. -/
theorem stripZeros_spec (digits : Nat) (exponent : Int) :
    (stripZeros digits exponent).value = digits * 10 ^ exponent ∧
      ((stripZeros digits exponent).digits = 0 ↔ digits = 0) := by
  fun_induction stripZeros digits exponent with
  | case1 digits exponent h ih =>
    have hdigits : digits = digits / 10 * 10 := by omega
    refine ⟨?_, by rw [ih.2]; omega⟩
    rw [ih.1]
    nth_rewrite 2 [hdigits]
    rw [zpow_add_one₀ (by norm_num)]
    push_cast
    ring
  | case2 digits exponent h => exact ⟨rfl, Iff.rfl⟩

/-- The normal form has the same value. -/
theorem value_normalize (d : Decimal) : d.normalize.value = d.value := by
  unfold normalize
  split
  · rename_i h
    simp [value, h]
  · exact (stripZeros_spec _ _).1

/-- A multiple of a negative power of two is one of the same power of ten. -/
theorem value_mul_pow_five (m k : ℕ) {e : ℤ} (he : e = -k) :
    value ⟨m * Nat.pow 5 k, e⟩ = m / 2 ^ k := by
  have hten : (10 : ℚ) ^ k = 5 ^ k * 2 ^ k := by
    rw [← mul_pow]
    norm_num
  have hfive : (5 : ℚ) ^ k ≠ 0 := pow_ne_zero _ (by norm_num)
  rw [value, he, zpow_neg, zpow_natCast, hten, Nat.pow_eq, Nat.cast_mul, Nat.cast_pow,
    Nat.cast_ofNat, ← div_eq_mul_inv, mul_comm (5 ^ k : ℚ) (2 ^ k), mul_div_mul_right _ _ hfive]

/-- Only the digit zero stands for zero. -/
theorem value_eq_zero_iff (d : Decimal) : d.value = 0 ↔ d.digits = 0 := by
  unfold value
  rw [mul_eq_zero, or_iff_left (zpow_ne_zero _ (by norm_num)), Nat.cast_eq_zero]

/-- A number in normal form with all digits before the point is beyond the range. -/
theorem limit_le_of_exponent {d : Decimal} (hdigits : d.digits ≠ 0) (h : 310 ≤ d.exponent) :
    Binary64.Extended.limit ≤ d.value * 2 ^ 1074 := by
  have hpow : (2 : ℚ) ^ 54 * 2 ^ 970 ≤ 10 ^ 310 := by
    have : 2 ^ 54 * 2 ^ 970 ≤ 10 ^ 310 := by decide +kernel
    exact_mod_cast this
  have hvalue : (10 : ℚ) ^ 310 ≤ d.value := by
    have hone : (1 : ℚ) ≤ d.digits := by exact_mod_cast Nat.one_le_iff_ne_zero.mpr hdigits
    calc (10 : ℚ) ^ 310 = 1 * 10 ^ (310 : ℤ) := by rw [one_mul]; rfl
      _ ≤ d.digits * 10 ^ d.exponent :=
        mul_le_mul hone (zpow_le_zpow_right₀ (by norm_num) h) (by positivity) (Nat.cast_nonneg _)
  have hsplit : (2 : ℚ) ^ 2044 = 2 ^ 970 * 2 ^ 1074 := by rw [← pow_add]
  have hpos : (0 : ℚ) < 2 ^ 970 := pow_pos two_pos 970
  unfold Binary64.Extended.limit
  rw [hsplit, ← mul_assoc]
  clear hsplit
  apply mul_le_mul_of_nonneg_right _ (pow_pos two_pos 1074).le
  generalize (2 : ℚ) ^ 970 = unit at *
  generalize (10 : ℚ) ^ 310 = bound at *
  linarith

/-- A number whose first digit is far behind the point is smaller than half a unit. -/
theorem lt_half_of_exponent {d : Decimal} (h : d.exponent + digitCount d.digits ≤ -330) :
    d.value * 2 ^ 1074 < 1 / 2 := by
  have hpow : (2 : ℚ) ^ 1074 * 2 < 10 ^ 330 := by
    have : 2 ^ 1074 * 2 < 10 ^ 330 := by decide +kernel
    exact_mod_cast this
  have hdigits : d.digits < 10 ^ digitCount d.digits :=
    (Nat.length_toDigits_le_iff (by decide) Nat.length_toDigits_pos).mp le_rfl
  have hvalue : d.value < (10 ^ 330)⁻¹ := by
    have hcast : (d.digits : ℚ) < 10 ^ (digitCount d.digits : ℤ) := by exact_mod_cast hdigits
    calc d.value < 10 ^ (digitCount d.digits : ℤ) * 10 ^ d.exponent :=
          mul_lt_mul_of_pos_right hcast (by positivity)
      _ = 10 ^ (digitCount d.digits + d.exponent) := by rw [← zpow_add₀ (by norm_num)]
      _ ≤ 10 ^ (-330 : ℤ) := zpow_le_zpow_right₀ (by norm_num) (by omega)
      _ = (10 ^ 330)⁻¹ := by rw [zpow_neg]; rfl
  have hpos : (0 : ℚ) < 2 ^ 1074 := pow_pos two_pos 1074
  calc d.value * 2 ^ 1074 < (10 ^ 330)⁻¹ * 2 ^ 1074 := mul_lt_mul_of_pos_right hvalue hpos
    _ < 1 / 2 := by
      rw [inv_mul_eq_div, div_lt_div_iff₀ (by positivity) two_pos, one_mul]
      exact hpow

/-- A decimal with all digits before the point is a whole number of units. -/
theorem value_mul_units_of_nonneg {d : Decimal} (h : 0 ≤ d.exponent) :
    (((d.digits * Nat.pow 10 d.exponent.toNat) <<< 1074 : ℕ) : ℚ) / (1 : ℕ) =
      d.value * 2 ^ 1074 := by
  obtain ⟨e, he⟩ := Int.eq_ofNat_of_zero_le h
  rw [value, he, zpow_natCast, Int.toNat_natCast, Nat.shiftLeft_eq, Nat.pow_eq]
  simp only [Nat.cast_mul, Nat.cast_pow, Nat.cast_ofNat, Nat.cast_one, div_one]

/-- A decimal with digits behind the point is a quotient of units by a power of ten. -/
theorem value_mul_units_of_neg {d : Decimal} (h : ¬ 0 ≤ d.exponent) :
    ((d.digits <<< 1074 : ℕ) : ℚ) / (Nat.pow 10 (-d.exponent).toNat : ℕ) =
      d.value * 2 ^ 1074 := by
  obtain ⟨e, he⟩ := Int.eq_ofNat_of_zero_le (a := -d.exponent) (by omega)
  rw [value, ← neg_neg d.exponent, he, neg_neg, Int.toNat_natCast, zpow_neg, zpow_natCast,
    Nat.shiftLeft_eq, Nat.pow_eq]
  simp only [Nat.cast_mul, Nat.cast_pow, Nat.cast_ofNat]
  rw [div_eq_mul_inv, mul_right_comm]

open Binary64 in
/-- A zero is what is nearest to a decimal of less than half a unit. -/
theorem zero_eq_finite_iff {negative : Bool} {d : Decimal} {x : Binary64}
    (hsmall : d.value * 2 ^ 1074 < 1 / 2) : (.finite (zero negative) : Extended) = .finite x ↔
      x.negative = negative ∧ NearestSize (d.value * 2 ^ 1074) x := by
  have hpos : (0 : ℚ) < 2 ^ 1074 := pow_pos two_pos 1074
  rw [nearestSize_iff_of_lt_half (mul_nonneg d.value_nonneg hpos.le) hsmall]
  constructor
  · rintro ⟨⟩
    exact ⟨rfl, rfl⟩
  · rintro ⟨hsign, hmagnitude⟩
    rw [ext_of_magnitude (x := x) (y := zero negative) hsign hmagnitude]

open Binary64 in
/-- A decimal is rounded to the number whose size is nearest to it in units. -/
theorem toExtended_eq_finite_iff_nearestSize {negative : Bool} {d : Decimal} {x : Binary64} :
    d.toExtended negative = .finite x ↔
      x.negative = negative ∧ NearestSize (d.value * 2 ^ 1074) x := by
  rw [← value_normalize]
  unfold toExtended
  dsimp only
  generalize d.normalize = n
  by_cases hdigits : n.digits = 0
  · rw [if_pos hdigits]
    apply zero_eq_finite_iff
    rw [(value_eq_zero_iff n).mpr hdigits, zero_mul]
    norm_num
  rw [if_neg hdigits]
  by_cases hlarge : 310 ≤ n.exponent
  · rw [if_pos hlarge]
    have hlimit := limit_le_of_exponent hdigits hlarge
    constructor
    · rintro ⟨⟩
    · rintro ⟨-, hnearest⟩
      exact absurd hnearest.lt_limit hlimit.not_gt
  rw [if_neg hlarge]
  by_cases hsmall : n.exponent + digitCount n.digits ≤ -330
  · rw [if_pos hsmall]
    exact zero_eq_finite_iff (lt_half_of_exponent hsmall)
  rw [if_neg hsmall]
  by_cases hwhole : 0 ≤ n.exponent
  · rw [if_pos hwhole, Extended.ofQuotient_eq_finite_iff one_pos, value_mul_units_of_nonneg hwhole]
  · have hden : 0 < Nat.pow 10 (-n.exponent).toNat := Nat.pow_pos (by decide)
    rw [if_neg hwhole, Extended.ofQuotient_eq_finite_iff hden, value_mul_units_of_neg hwhole]

open Binary64 in
/-- A decimal is rounded to the number that is nearest to it. -/
theorem toExtended_eq_finite_iff {negative : Bool} {d : Decimal} {x : Binary64} :
    d.toExtended negative = .finite x ↔
      x.negative = negative ∧ IsNearest (signed negative d.value) x := by
  have hpos : (0 : ℚ) < 2 ^ 1074 := pow_pos two_pos 1074
  have hq : 0 ≤ d.value * 2 ^ 1074 := mul_nonneg d.value_nonneg hpos.le
  rw [toExtended_eq_finite_iff_nearestSize]
  apply and_congr_right
  rintro rfl
  rw [← isNearest_signed_iff hq, mul_div_cancel_right₀ _ hpos.ne']

/-- A decimal reads as a number that another decimal of the same value reads as. -/
theorem toExtended_eq_finite_of_value_eq {negative : Bool} {d d' : Decimal} {x : Binary64}
    (h : d.toExtended negative = .finite x) (hvalue : d'.value = d.value) :
    d'.toExtended negative = .finite x := by
  rw [toExtended_eq_finite_iff] at h ⊢
  rwa [hvalue]

end Decimal

/-! ## Digits that read back -/

namespace Binary64

/-- The sizes of numbers are below the limit. -/
theorem magnitude_lt_limit (x : Binary64) : (x.magnitude : ℚ) < Extended.limit := by
  have hsignificand : (x.significand : ℚ) + 1 ≤ 2 ^ 53 := by exact_mod_cast x.significand_lt
  have hshift : (2 : ℚ) ^ x.shift ≤ 2 ^ (2044 + 1) := pow_le_pow_right₀ one_le_two x.shift_le
  have hsize : (x.magnitude : ℚ) = x.significand * 2 ^ x.shift := by
    rw [magnitude, Nat.shiftLeft_eq, Nat.cast_mul, Nat.cast_pow, Nat.cast_ofNat]
  have hpos : (0 : ℚ) < 2 ^ 2044 := pow_pos two_pos 2044
  rw [pow_succ] at hshift
  unfold Extended.limit
  generalize (2 : ℚ) ^ 2044 = unit at *
  calc (x.magnitude : ℚ) = x.significand * 2 ^ x.shift := hsize
    _ ≤ (2 ^ 53 - 1) * (unit * 2) :=
      mul_le_mul (by linarith) hshift (by positivity) (by norm_num)
    _ < (2 ^ 54 - 1) * unit := by linarith

/-- Nothing is nearer to the size of a number than the number itself. -/
theorem nearestSize_magnitude (x : Binary64) : NearestSize x.magnitude x where
  closest y := by
    rw [sub_self, abs_zero]
    exact abs_nonneg _
  even_of_tie y hne htie := by
    rw [sub_self, abs_zero, abs_eq_zero, sub_eq_zero, Nat.cast_inj] at htie
    exact absurd htie.symm hne
  lt_limit := x.magnitude_lt_limit

/-- All digits of a number read back. -/
theorem toExtended_exactDecimal (x : Binary64) :
    x.exactDecimal.toExtended x.negative = .finite x := by
  have hvalue : x.exactDecimal.value = x.magnitude / 2 ^ 1074 := by
    unfold exactDecimal
    generalize hk : (1074 : ℕ) = k
    exact Decimal.value_mul_pow_five x.magnitude k (by omega)
  rw [Decimal.toExtended_eq_finite_iff, hvalue, isNearest_signed_iff (Nat.cast_nonneg _)]
  exact ⟨rfl, x.nearestSize_magnitude⟩

/-- The shortest decimal of a number reads back. -/
theorem toExtended_shortest (x : Binary64) : x.shortest.toExtended x.negative = .finite x := by
  have hread : ((findShortest? x).getD x.exactDecimal).toExtended x.negative = .finite x := by
    cases hfind : findShortest? x with
    | none => exact toExtended_exactDecimal x
    | some d => exact readsBack_of_findShortest? hfind
  exact Decimal.toExtended_eq_finite_of_value_eq hread (Decimal.value_normalize _)

end Binary64

end Reshape
