import Reshape.Proofs.RoundedIntegers

/-!
# The integers that nearest numbers stand for

The nearest binary64 number of an integer is whole, so it stands for an integer again.  That
integer has the first 53 binary digits of the given one, rounded, and zeros behind them.  It is the
given one exactly where no other binary digits are set, for example for all integers up to `2 ^ 53`.

Main results:

- Definition `nearestInt`: the integer that the nearest number of an integer stands for.
- Theorem `Extended.units_of_ofInt`: the nearest number stands for it.
- Theorem `nearestInt_eq_self_iff`: when an integer is its own nearest number.
- Theorem `exists_value_eq_iff`: these are the integers among the binary64 numbers.
-/

namespace Reshape

namespace Binary64

/-! ## Rounded natural numbers -/

/-- Rounding a quotient does not depend on its terms. -/
theorem roundHalfEven_mul_mul (num den : Nat) {c : Nat} (hc : 0 < c) :
    roundHalfEven (num * c) (den * c) = roundHalfEven num den := by
  have hlt : den * c < 2 * (num % den * c) ↔ den < 2 * (num % den) := by
    rw [← mul_assoc, Nat.mul_lt_mul_right hc]
  have heq : den * c = 2 * (num % den * c) ↔ den = 2 * (num % den) := by
    rw [← mul_assoc, Nat.mul_left_inj hc.ne']
  simp only [roundHalfEven, Nat.mul_div_mul_right _ _ hc, Nat.mul_mod_mul_right, hlt, heq]

/-- A number is rounded to itself on the grids that it lies on. -/
theorem roundHalfEven_mul_eq_self_iff (num : Nat) {den : Nat} (h : 0 < den) :
    roundHalfEven num den * den = num ↔ den ∣ num := by
  constructor
  · intro heq
    exact ⟨roundHalfEven num den, by rw [mul_comm, heq]⟩
  · rintro ⟨n, rfl⟩
    rw [mul_comm den n, roundHalfEven_mul_right n den h]

/-- A shift adds as many binary digits as it says. -/
theorem log2_shiftLeft {n : Nat} (hn : n ≠ 0) (shift : Nat) :
    (n <<< shift).log2 = n.log2 + shift := by
  have hpos := Nat.two_pow_pos shift
  rw [Nat.shiftLeft_eq, Nat.log2_eq_iff (Nat.mul_ne_zero hn hpos.ne'), Nat.pow_add,
    Nat.add_right_comm, Nat.pow_add]
  exact ⟨Nat.mul_le_mul_right _ (Nat.log2_self_le hn),
    Nat.mul_lt_mul_of_pos_right Nat.lt_log2_self hpos⟩

/-- The natural number with the first 53 binary digits of `n`, rounded. -/
def nearestNat (n : Nat) : Nat :=
  roundHalfEven n (2 ^ (n.log2 - 52)) * 2 ^ (n.log2 - 52)

/-- A natural number keeps its size when no more than its first 53 binary digits are set. -/
theorem nearestNat_eq_self_iff (n : Nat) : nearestNat n = n ↔ 2 ^ (n.log2 - 52) ∣ n :=
  roundHalfEven_mul_eq_self_iff n (Nat.two_pow_pos _)

/-- No other binary digits are set in the natural numbers up to `2 ^ 53`. -/
theorem nearestNat_of_le {n : Nat} (h : n ≤ 2 ^ 53) : nearestNat n = n := by
  rw [nearestNat_eq_self_iff]
  rcases h.eq_or_lt with rfl | hlt
  · decide
  · have hlog : n.log2 - 52 = 0 := by
      by_cases hn : n = 0
      · rw [hn]
        rfl
      · have hsize : n.log2 < 53 := (Nat.log2_lt hn).mpr hlt
        omega
    rw [hlog, pow_zero]
    exact one_dvd n

/-- A natural number is rounded in the same place when it is shifted by at least 52 bits. -/
theorem significandFor_shiftLeft (n : Nat) {shift : Nat} (h : 52 ≤ shift) :
    Extended.significandFor (n <<< shift) 1 * 2 ^ Extended.shiftFor (n <<< shift) 1 =
      nearestNat n * 2 ^ shift := by
  by_cases hn : n = 0
  · have hzero : Extended.significandFor (0 <<< shift) 1 = 0 := by
      simp [Extended.significandFor, roundHalfEven]
    have hnearest : nearestNat 0 = 0 := by decide
    rw [hn, hzero, hnearest, zero_mul, zero_mul]
  have hshift : Extended.shiftFor (n <<< shift) 1 = n.log2 + shift - 52 := by
    rw [Extended.shiftFor, Nat.div_one, log2_shiftLeft hn]
  rw [Extended.significandFor, hshift, Nat.shiftLeft_eq, Nat.shiftLeft_eq, one_mul, nearestNat]
  by_cases hlog : n.log2 ≤ 52
  · -- All binary digits fit, so they are counted on a grid finer than that of the integers.
    obtain ⟨fine, hfine⟩ : ∃ fine, shift = fine + (n.log2 + shift - 52) :=
      ⟨shift - (n.log2 + shift - 52), by omega⟩
    have hgrid : 2 ^ shift = 2 ^ fine * 2 ^ (n.log2 + shift - 52) :=
      (congrArg (2 ^ ·) hfine).trans (pow_add 2 fine _)
    have hone : roundHalfEven n 1 = n := by
      have hself := roundHalfEven_mul_right n 1 Nat.one_pos
      rwa [mul_one] at hself
    rw [hgrid, ← mul_assoc, roundHalfEven_mul_right _ _ (Nat.two_pow_pos _),
      Nat.sub_eq_zero_of_le hlog, pow_zero, hone, mul_one, mul_assoc]
  · have hgrid : n.log2 + shift - 52 = n.log2 - 52 + shift := by omega
    rw [hgrid, pow_add, roundHalfEven_mul_mul n _ (Nat.two_pow_pos shift), mul_assoc]

/-! ## Rounded integers -/

/-- The integer that the nearest number of an integer stands for. -/
def nearestInt (n : Int) : Int :=
  if n < 0 then -(nearestNat n.natAbs : Int) else nearestNat n.natAbs

/-- An integer is kept when no more than its first 53 binary digits are set. -/
theorem nearestInt_eq_self_iff (n : Int) :
    nearestInt n = n ↔ 2 ^ (n.natAbs.log2 - 52) ∣ n.natAbs := by
  rw [← nearestNat_eq_self_iff, nearestInt]
  split <;> omega

/-- All integers up to `2 ^ 53` are kept. -/
theorem nearestInt_of_le {n : Int} (h : n.natAbs ≤ 2 ^ 53) : nearestInt n = n := by
  rw [nearestInt_eq_self_iff, ← nearestNat_eq_self_iff, nearestNat_of_le h]

section Nearest

variable {n : Int} {x : Binary64} (hx : Extended.ofInt n = .finite x)

include hx

/-- The nearest number of an integer has the sign and the rounded size of the integer. -/
theorem magnitude_of_ofInt :
    x.negative = decide (n < 0) ∧ x.magnitude = nearestNat n.natAbs * unitsPerOne := by
  obtain ⟨hsign, hmagnitude, -⟩ := Extended.nearestSize_of_ofQuotient Nat.one_pos hx
  have hunits : 2 ^ 1074 = unitsPerOne := by rw [unitsPerOne, Nat.one_shiftLeft]
  exact ⟨hsign, hmagnitude.trans ((significandFor_shiftLeft n.natAbs (by decide)).trans
    (congrArg (nearestNat n.natAbs * ·) hunits))⟩

/-- The nearest number of an integer stands for the rounded integer. -/
theorem units_of_ofInt : x.units = nearestInt n * 2 ^ 1074 := by
  obtain ⟨hsign, hmagnitude⟩ := magnitude_of_ofInt hx
  rw [units, hsign, hmagnitude, nearestInt, ← cast_unitsPerOne]
  by_cases hn : n < 0
  · simp only [hn, decide_true, if_true, Nat.cast_mul, neg_mul]
  · simp only [hn, decide_false, if_false, Bool.false_eq_true, Nat.cast_mul]

/-- The value of the nearest number is the rounded integer. -/
theorem value_of_ofInt : x.value = nearestInt n := by
  have hpos : (0 : ℚ) < 2 ^ 1074 := pow_pos two_pos 1074
  rw [value, units_of_ofInt hx, Int.cast_mul, Int.cast_pow, Int.cast_ofNat,
    mul_div_cancel_right₀ _ hpos.ne']

/-- No fraction is dropped from the nearest number of an integer. -/
theorem truncate_of_ofInt : x.truncate = nearestInt n := by
  have hpos : (0 : ℤ) < 2 ^ 1074 := pow_pos two_pos 1074
  rw [truncate, units_of_ofInt hx, cast_unitsPerOne, Int.mul_tdiv_cancel _ hpos.ne']

/-- The nearest number of an integer is a zero where the rounded integer is. -/
theorem isZero_of_ofInt : x.isZero = decide (nearestInt n = 0) := by
  rw [Bool.eq_iff_iff, isZero, beq_iff_eq, ← magnitude_eq_zero_iff, (magnitude_of_ofInt hx).2,
    Nat.mul_eq_zero, or_iff_left unitsPerOne_pos.ne', decide_eq_true_iff, nearestInt]
  split <;> omega

/-- The nearest number of an integer is whole. -/
theorem isWhole_of_ofInt : x.isWhole := by
  rw [isWhole, beq_iff_eq, (magnitude_of_ofInt hx).2, Nat.mul_mod_left]

end Nearest

/-- The integers of up to 64 bits among the binary64 numbers are those that are kept. -/
theorem exists_value_eq_iff {n : Int} (h : n.natAbs ≤ 2 ^ 64) :
    (∃ x : Binary64, x.value = n) ↔ nearestInt n = n := by
  obtain ⟨x, hx⟩ := Extended.exists_ofInt_eq_finite h
  constructor
  · rintro ⟨y, hy⟩
    have hclosest := (Extended.isNearest_of_ofInt hx).closest y
    rw [hy, sub_self, abs_zero, abs_nonpos_iff, sub_eq_zero, value_of_ofInt hx,
      Int.cast_inj] at hclosest
    exact hclosest.symm
  · intro hself
    exact ⟨x, by rw [value_of_ofInt hx, hself]⟩

end Binary64

end Reshape
