import Reshape.Json.Number
import Reshape.Proofs.RoundedResults

/-!
# Nearest numbers of integers

Every integer of 64 bits, with or without a sign, has a nearest binary64 number, and it is
a finite one.  A greater integer never has a smaller nearest number, but different integers
may share one.

Main results:

- Theorem `Binary64.IsNearest.value_le_of_lt`: nearest numbers keep the order of values.
- Theorem `Binary64.Extended.units_le_of_le`: so do the nearest numbers of integers.
- Theorem `Number.Valid.exists_finite`: a valid number has a finite nearest number.
-/

namespace Reshape

/-- The bounds of the integers of 64 bits with a sign. -/
theorem isSigned64_iff {n : Int} :
    isSigned64 n ↔ -0x8000000000000000 ≤ n ∧ n < 0x8000000000000000 := by
  simp only [isSigned64, Bool.and_eq_true, decide_eq_true_eq]

/-- The bounds of the integers that can stand in a value. -/
theorem Number.valid_integer_iff {n : Int} :
    (integer n).Valid ↔ -0x8000000000000000 ≤ n ∧ n < 0x10000000000000000 := by
  simp only [Valid, isSigned64_iff, isUnsigned64, Bool.and_eq_true, decide_eq_true_eq]
  omega

/-- The size of an integer of 64 bits with a sign has 64 bits at most. -/
theorem natAbs_le_of_isSigned64 {n : Int} (h : isSigned64 n) : n.natAbs ≤ 2 ^ 63 := by
  rw [isSigned64_iff] at h
  omega

/-- The value of an integer of so many bits. -/
theorem abs_cast_le_two_pow {n : Int} {bits : Nat} (h : n.natAbs ≤ 2 ^ bits) :
    |(n : ℚ)| ≤ 2 ^ bits := by
  rw [← Int.cast_abs, Int.abs_eq_natAbs]
  exact_mod_cast h

namespace Binary64

/-- Numbers are in the order of their units. -/
theorem value_le_value_iff (x y : Binary64) : x.value ≤ y.value ↔ x.units ≤ y.units := by
  have hpos : (0 : ℚ) < 2 ^ 1074 := pow_pos two_pos 1074
  rw [value, value, div_le_div_iff_of_pos_right hpos, Int.cast_le]

/-- The nearest number of a smaller value is not greater.  If it were, the smaller value
would lie above the middle between the two numbers and the greater one below it. -/
theorem IsNearest.value_le_of_lt {v w : ℚ} {x y : Binary64} (hx : IsNearest v x)
    (hy : IsNearest w y) (h : v < w) : x.value ≤ y.value := by
  by_contra hlt
  have hvx := hx.closest y
  have hwy := hy.closest x
  have habove : x.value + y.value ≤ 2 * v := by
    rcases abs_cases (v - x.value) with ⟨hv, _⟩ | ⟨hv, _⟩ <;>
      rcases abs_cases (v - y.value) with ⟨hv', _⟩ | ⟨hv', _⟩ <;> linarith
  have hbelow : 2 * w ≤ x.value + y.value := by
    rcases abs_cases (w - x.value) with ⟨hw, _⟩ | ⟨hw, _⟩ <;>
      rcases abs_cases (w - y.value) with ⟨hw', _⟩ | ⟨hw', _⟩ <;> linarith
  linarith

namespace Extended

/-- An integer is rounded to the number that is nearest to it. -/
theorem isNearest_of_ofInt {n : Int} {x : Binary64} (h : ofInt n = .finite x) :
    IsNearest n x :=
  (h ▸ isRounded_ofInt n).isNearest

/-- A greater integer does not have a smaller nearest number. -/
theorem units_le_of_le {m n : Int} {x y : Binary64} (h : m ≤ n) (hx : ofInt m = .finite x)
    (hy : ofInt n = .finite y) : x.units ≤ y.units := by
  rcases h.eq_or_lt with rfl | hlt
  · rw [hx] at hy
    cases hy
    exact le_rfl
  · rw [← value_le_value_iff]
    exact (isNearest_of_ofInt hx).value_le_of_lt (isNearest_of_ofInt hy) (Int.cast_lt.mpr hlt)

/-- Integers of up to 64 bits are rounded to finite numbers. -/
theorem exists_ofInt_eq_finite {n : Int} (h : n.natAbs ≤ 2 ^ 64) : ∃ x, ofInt n = .finite x := by
  obtain ⟨x, hx, -⟩ :=
    (isRounded_ofInt n).exists_finite_of_le ((abs_cast_le_two_pow h).trans (by norm_num))
  exact ⟨x, hx⟩

end Extended

end Binary64

/-- However an integer is seen, its nearest number is the same. -/
theorem Number.toExtended_quantity_integer (n : Int) :
    (Number.integer n).quantity.toExtended = .ofInt n := by
  unfold quantity
  dsimp only
  split <;> rfl

/-- A valid number has a finite nearest number. -/
theorem Number.Valid.exists_finite {n : Number} (h : n.Valid) :
    ∃ x, n.quantity.toExtended = .finite x := by
  cases n with
  | float x => exact ⟨x, rfl⟩
  | integer n =>
    have hsize : n.natAbs ≤ 2 ^ 64 := by
      rw [valid_integer_iff] at h
      omega
    rcases Binary64.Extended.exists_ofInt_eq_finite hsize with ⟨x, hx⟩
    exact ⟨x, (Number.toExtended_quantity_integer n).trans hx⟩

end Reshape
