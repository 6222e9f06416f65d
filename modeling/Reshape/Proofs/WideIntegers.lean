import Reshape.Proofs.NearestIntegers

/-!
# Integers that need all 64 bits

A valid integer either has 64 bits with a sign, and then it is seen exactly, or it lies between
`2 ^ 63` and `2 ^ 64`, and then it is seen as its nearest binary64 number.  There the numbers are
the multiples of `2048`, so up to `2048` integers are seen as one.

Main results:

- Theorem `Number.Valid.wide`: where an integer lies that does not have 64 bits with a sign.
- Theorem `Binary64.Extended.units_of_wide`: its nearest number is the nearest multiple of `2048`.
- Definition `Merge`: different integers that are not told apart.
- Theorem `Merge.abs_sub_le`: they are not far from each other.
-/

namespace Reshape

/-- An integer that has 64 bits, but not with a sign. -/
def IsWide64 (n : Int) : Prop :=
  0x8000000000000000 ≤ n ∧ n < 0x10000000000000000

instance : DecidablePred IsWide64 :=
  fun _ => inferInstanceAs (Decidable (_ ∧ _))

/-- An integer from `2 ^ 63` on does not have 64 bits with a sign. -/
theorem isSigned64_eq_false {n : Int} (h : 0x8000000000000000 ≤ n) : isSigned64 n = false := by
  rw [← Bool.not_eq_true, isSigned64_iff]
  omega

/-- A valid integer that is not seen exactly is wide. -/
theorem Number.Valid.wide {n : Int} (h : (Number.integer n).Valid) (hsigned : ¬isSigned64 n) :
    IsWide64 n := by
  rw [valid_integer_iff] at h
  rw [isSigned64_iff] at hsigned
  unfold IsWide64
  omega

namespace Binary64

/-- Rounding does not go below the whole part. -/
theorem div_le_roundHalfEven (num den : Nat) : num / den ≤ roundHalfEven num den := by
  unfold roundHalfEven
  dsimp only
  split <;> omega

namespace Extended

variable {m n : Int} {x : Binary64}

/-- The nearest number of a wide integer is the nearest multiple of `2048`. -/
theorem units_of_wide (h : IsWide64 n) (hx : ofInt n = .finite x) :
    x.negative = false ∧ x.units = roundHalfEven n.natAbs 2048 * 2048 * 2 ^ 1074 := by
  obtain ⟨hlow, hhigh⟩ := h
  have hneg : ¬n < 0 := by omega
  have hlog : n.natAbs.log2 = 63 := by
    rw [Nat.log2_eq_iff (by omega)]
    omega
  have hnearest : nearestInt n = roundHalfEven n.natAbs 2048 * 2048 := by
    rw [nearestInt, if_neg hneg, nearestNat, hlog, Nat.cast_mul]
    rfl
  refine ⟨(magnitude_of_ofInt hx).1.trans (decide_eq_false hneg), ?_⟩
  rw [units_of_ofInt hx, hnearest]

/-- The nearest number of a wide integer is not below `2 ^ 63`. -/
theorem le_units_of_wide (h : IsWide64 n) (hx : ofInt n = .finite x) :
    0x8000000000000000 * 2 ^ 1074 ≤ x.units := by
  rw [(units_of_wide h hx).2]
  refine mul_le_mul_of_nonneg_right ?_ (pow_nonneg two_pos.le _)
  have hround := div_le_roundHalfEven n.natAbs 2048
  have hlow := h.1
  omega

/-- The nearest number of a wide integer. -/
theorem exists_of_wide (h : IsWide64 n) : ∃ x, ofInt n = .finite x := by
  obtain ⟨hlow, hhigh⟩ := h
  exact exists_ofInt_eq_finite (by omega)

end Extended

/-- A number of a positive size is stored in one way only. -/
theorem eq_of_units_eq {x y : Binary64} (hpos : 0 < x.units) (h : x.units = y.units) : x = y := by
  have hsign : ∀ z : Binary64, 0 < z.units → z.negative = false ∧ z.units = z.magnitude := by
    intro z hz
    unfold units at hz ⊢
    cases hneg : z.negative with
    | false => simp
    | true =>
      rw [if_pos hneg] at hz
      omega
  obtain ⟨hx, hxunits⟩ := hsign x hpos
  obtain ⟨hy, hyunits⟩ := hsign y (h ▸ hpos)
  exact ext_of_magnitude (hx.trans hy.symm) (by omega)

end Binary64

/-! ## Integers that are not told apart -/

open Binary64 Binary64.Extended

/-- Different integers, not both of 64 bits with a sign, that have the same nearest number. -/
def Merge (m n : Int) : Prop :=
  m ≠ n ∧ ¬(isSigned64 m ∧ isSigned64 n) ∧ ofInt m = ofInt n

instance (m n : Int) : Decidable (Merge m n) :=
  inferInstanceAs (Decidable (_ ∧ _))

section Merge

variable {m n : Int}

/-- It does not matter which one of the two integers comes first. -/
theorem Merge.symm (h : Merge m n) : Merge n m :=
  ⟨h.1.symm, fun hsigned => h.2.1 hsigned.symm, h.2.2.symm⟩

/-- A wide integer is at most half of `2048` away from its nearest number. -/
theorem abs_sub_round_le (h : IsWide64 n) : |n - roundHalfEven n.natAbs 2048 * 2048| ≤ 1024 := by
  have hhalf := (two_mul_abs_sub_roundHalfEven n.natAbs (by decide : 0 < 2048)).1
  have hlow := h.1
  rw [Int.natCast_natAbs, abs_of_nonneg (by omega : 0 ≤ n), Nat.cast_ofNat] at hhalf
  omega

/-- An integer of 64 bits with a sign that has the same nearest number as a wide one is close to
the end of its range, and so is the wide one. -/
theorem near_end (hm : isSigned64 m) (hn : IsWide64 n) (h : ofInt m = ofInt n) :
    0x7ffffffffffffc00 < m ∧ m < 0x8000000000000000 ∧
      roundHalfEven n.natAbs 2048 * 2048 = (0x8000000000000000 : ℤ) := by
  have hpos : (0 : ℤ) < 2 ^ 1074 := pow_pos two_pos _
  have hlt : m < 0x8000000000000000 := (isSigned64_iff.mp hm).2
  obtain ⟨x, hx⟩ := exists_of_wide hn
  obtain ⟨y, hy⟩ := exists_of_wide (n := 0x8000000000000000) (by decide)
  have hlow := le_units_of_wide hn hx
  refine ⟨?_, hlt, ?_⟩
  · by_contra hle
    -- The last number in front of the end is exact.
    have hlast : ofInt 0x7ffffffffffffc00 = .finite ⟨false, 0x1fffffffffffff, 1084, by decide,
      by decide, by decide⟩ := by decide +kernel
    have hbelow := units_le_of_le (not_lt.mp hle) (h.trans hx) hlast
    exact absurd (hlow.trans hbelow) (by decide +kernel)
  · have hround : roundHalfEven 0x8000000000000000 2048 = 0x10000000000000 := by decide
    have hend := (units_of_wide (by decide) hy).2
    have hle := units_le_of_le hlt.le (h.trans hx) hy
    have hunits := (units_of_wide hn hx).2
    rw [hend, hunits] at hle
    rw [hunits] at hlow
    exact le_antisymm (le_of_mul_le_mul_right hle hpos) (le_of_mul_le_mul_right hlow hpos)

/-- Integers that are not told apart are at most `2048` away from each other. -/
theorem Merge.abs_sub_le (hm : (Number.integer m).Valid) (hn : (Number.integer n).Valid)
    (h : Merge m n) : |m - n| ≤ 2048 := by
  have hmixed : ∀ {m n : Int}, isSigned64 m → IsWide64 n → ofInt m = ofInt n → |m - n| ≤ 2048 := by
    intro m n hm hn heq
    obtain ⟨hlow, hhigh, hround⟩ := near_end hm hn heq
    have hhalf := abs_sub_round_le hn
    rw [hround] at hhalf
    rw [abs_le] at hhalf ⊢
    omega
  obtain ⟨-, hsigned, heq⟩ := h
  by_cases hmsigned : isSigned64 m
  · exact hmixed hmsigned (hn.wide fun hnsigned => hsigned ⟨hmsigned, hnsigned⟩) heq
  by_cases hnsigned : isSigned64 n
  · rw [abs_sub_comm]
    exact hmixed hnsigned (hm.wide hmsigned) heq.symm
  · obtain ⟨x, hx⟩ := exists_of_wide (hm.wide hmsigned)
    have hround := (units_of_wide (hm.wide hmsigned) hx).2.symm.trans
      (units_of_wide (hn.wide hnsigned) (heq ▸ hx)).2
    rw [mul_right_cancel_iff_of_pos (pow_pos two_pos _)] at hround
    have hhalf := abs_sub_round_le (hm.wide hmsigned)
    have hhalf' := abs_sub_round_le (hn.wide hnsigned)
    rw [hround] at hhalf
    rw [abs_le] at hhalf hhalf' ⊢
    omega

end Merge

end Reshape
