import Reshape.Binary64.Elementary
import Reshape.Proofs.IntegerArithmetic

/-!
# Powers of integers

The power of an integer to an exponent of up to 32 bits is exact whenever it has 64 bits with a
sign.  Larger exponents are not used as integers.  The only powers that still have 64 bits are those
of zero, one and minus one.  They are computed on binary64 numbers, so they are no integers, and the
exponent is rounded first, so that minus one may even get the other sign.

Main results:

- Theorem `base_of_isSigned64_pow`: the bases with large powers of 64 bits.
- Theorem `Quantity.integerPower?_eq`: the power of an integer is exact if it fits.
- Theorem `Binary64.Extended.exists_pow_ofInt`: the large powers on binary64 numbers.
- Theorem `integer_powers`: what a power of integers is, and when it is exact.
- Theorem `integer_powers_large`: powers of one and minus one that are not exact.
-/

namespace Reshape

/-! ## Exact powers -/

/-- From the 64th power on only the powers of zero, one and minus one have 64 bits. -/
theorem base_of_isSigned64_pow {base : Int} {exponent : Nat} (h : 64 ≤ exponent)
    (hfits : isSigned64 (base ^ exponent)) : base = 0 ∨ base = 1 ∨ base = -1 := by
  by_contra hbase
  have htwo : 2 ≤ base.natAbs := by omega
  have hsize := natAbs_le_of_isSigned64 hfits
  have hlarge : 2 ^ 64 ≤ (base ^ exponent).natAbs :=
    calc 2 ^ 64 ≤ 2 ^ exponent := Nat.pow_le_pow_right (by decide) h
      _ ≤ base.natAbs ^ exponent := Nat.pow_le_pow_left htwo _
      _ = (base ^ exponent).natAbs := (Int.natAbs_pow base exponent).symm
  exact absurd (hlarge.trans hsize) (by decide)

namespace Quantity

/-- The power of an integer is exact if it has 64 bits with a sign. -/
theorem integerPower?_eq (base : Int) (exponent : Nat) :
    integerPower? base exponent =
      if isSigned64 (base ^ exponent) then some (base ^ exponent) else none := by
  have hfilter : ∀ n : Int, (some n).filter isSigned64 = if isSigned64 n then some n else none :=
    fun n => rfl
  rw [integerPower?]
  by_cases hsmall : exponent < 64
  · rw [if_pos hsmall]
    exact hfilter _
  rw [if_neg hsmall]
  by_cases hbase : base = 0 ∨ base = 1
  · have hpow : base ^ exponent = base := by
      rcases hbase with rfl | rfl
      · exact zero_pow (by omega)
      · exact one_pow _
    rw [if_pos hbase, hfilter, hpow]
  rw [if_neg hbase]
  by_cases hneg : base = -1
  · rw [if_pos hneg, hfilter, hneg, neg_one_pow_eq_ite]
    simp only [Nat.even_iff]
  · have hlarge : ¬isSigned64 (base ^ exponent) := by
      intro hfits
      have := base_of_isSigned64_pow (not_lt.mp hsmall) hfits
      omega
    rw [if_neg hneg, if_neg hlarge]
    rfl

/-- The power of two integers is exact if it has 64 bits with a sign and the exponent 32 bits. -/
theorem power_integers (m : Int) {n : Int} (hn : 0 ≤ n) :
    power (.exact m) (.exact n) =
      if isSigned64 (m ^ n.toNat) ∧ n < 2 ^ 32 then .exact (m ^ n.toNat)
      else .real (.pow (.ofInt m) (.ofInt n)) := by
  have hbound : (0 ≤ n ∧ n < 0x100000000) ↔ n < 2 ^ 32 := by omega
  simp only [power, hbound, integerPower?_eq]
  by_cases hsmall : n < 2 ^ 32
  · rw [if_pos hsmall]
    by_cases hfits : isSigned64 (m ^ n.toNat)
    · rw [if_pos hfits, if_pos ⟨hfits, hsmall⟩]
    · rw [if_neg hfits, if_neg fun h => hfits h.1]
  · rw [if_neg hsmall, if_neg fun h => hsmall h.2]

end Quantity

/-! ## Powers of binary64 numbers -/

namespace Binary64

/-- The rounded integers are in the order of the integers. -/
theorem nearestInt_le_nearestInt {m n : Int} (h : m ≤ n) (hm : m.natAbs ≤ 2 ^ 64)
    (hn : n.natAbs ≤ 2 ^ 64) : nearestInt m ≤ nearestInt n := by
  obtain ⟨x, hx⟩ := Extended.exists_ofInt_eq_finite hm
  obtain ⟨y, hy⟩ := Extended.exists_ofInt_eq_finite hn
  have hle := (value_le_value_iff x y).mpr (Extended.units_le_of_le h hx hy)
  rwa [value_of_ofInt hx, value_of_ofInt hy, Int.cast_le] at hle

section Nearest

variable {n : Int} {x : Binary64} (hx : Extended.ofInt n = .finite x)

include hx

/-- The nearest number of an integer is odd where the rounded integer is. -/
theorem isOdd_of_ofInt : Extended.isOdd x = decide (nearestInt n % 2 = 1) := by
  rw [Extended.isOdd, isWhole_of_ofInt hx, truncate_of_ofInt hx, Bool.true_and]
  rfl

/-- The nearest number of an integer is one where the rounded integer is. -/
theorem units_beq_of_ofInt : (x.units == (unitsPerOne : Int)) = decide (nearestInt n = 1) := by
  have hpos : (0 : ℤ) < 2 ^ 1074 := pow_pos two_pos 1074
  rw [Bool.eq_iff_iff, beq_iff_eq, units_of_ofInt hx, cast_unitsPerOne, decide_eq_true_iff]
  generalize (2 : ℤ) ^ 1074 = unit at *
  rw [mul_eq_right₀ hpos.ne']

/-- The nearest number of an integer has the size one where the rounded integer has. -/
theorem magnitude_beq_of_ofInt :
    (x.magnitude == unitsPerOne) = decide ((nearestInt n).natAbs = 1) := by
  rw [Bool.eq_iff_iff, beq_iff_eq, (magnitude_of_ofInt hx).2, Nat.mul_eq_right unitsPerOne_pos.ne',
    decide_eq_true_iff, nearestInt]
  split <;> omega

end Nearest

namespace Extended

/-- The integers up to `2 ^ 53` are binary64 numbers. -/
theorem exists_ofInt_of_le {n : Int} (h : n.natAbs ≤ 2 ^ 53) :
    ∃ x, ofInt n = .finite x ∧ x.value = n := by
  obtain ⟨x, hx⟩ := exists_ofInt_eq_finite (h.trans (by decide))
  exact ⟨x, hx, by rw [value_of_ofInt hx, nearestInt_of_le h]⟩

/-- The powers of zero, one and minus one to a positive integer are those to the rounded integer. -/
theorem exists_pow_ofInt {m n : Int} (hm : m = 0 ∨ m = 1 ∨ m = -1) (hn : 1 ≤ n)
    (hsize : n.natAbs ≤ 2 ^ 64) :
    ∃ x, pow (ofInt m) (ofInt n) = .finite x ∧ x.value = (m : ℚ) ^ (nearestInt n).toNat := by
  have hbase : m.natAbs ≤ 2 ^ 53 := by omega
  have hself : nearestInt m = m := nearestInt_of_le hbase
  have hpositive : 1 ≤ nearestInt n := nearestInt_le_nearestInt hn (by decide) hsize
  obtain ⟨x, hx, hvalue⟩ := exists_ofInt_of_le hbase
  obtain ⟨y, hy⟩ := exists_ofInt_eq_finite hsize
  have hyzero : y.isZero = false := by
    rw [isZero_of_ofInt hy]
    exact decide_eq_false (by omega)
  have hyneg : y.negative = false := by
    rw [(magnitude_of_ofInt hy).1]
    exact decide_eq_false (by omega)
  rw [hx, hy]
  simp only [pow, hyzero, hyneg, isWhole_of_ofInt hy, isOdd_of_ofInt hy, isZero_of_ofInt hx,
    units_beq_of_ofInt hx, magnitude_beq_of_ofInt hx, (magnitude_of_ofInt hx).1, hself]
  rcases hm with rfl | rfl | rfl
  · refine ⟨.zero false, by simp, ?_⟩
    rw [Int.cast_zero, zero_pow (by omega)]
    simp [value, units]
  · exact ⟨x, by simp [one, hx], by rw [Int.cast_one, one_pow, hvalue, Int.cast_one]⟩
  · -- The sign depends on whether the rounded exponent is odd.
    have heven : Even (nearestInt n).toNat ↔ ¬nearestInt n % 2 = 1 := by
      rw [Nat.even_iff]
      omega
    obtain ⟨z, hz, hvalue⟩ := exists_ofInt_of_le (n := if nearestInt n % 2 = 1 then -1 else 1)
      (by split <;> decide)
    refine ⟨z, by simp [signedOne, hz], ?_⟩
    rw [hvalue, Int.cast_neg, Int.cast_one, neg_one_pow_eq_ite]
    simp only [heven]
    split <;> simp

end Extended

end Binary64

open Json

/-! ## Calls -/

/-- A result of arithmetic on binary64 numbers is null or a number that is no integer. -/
theorem exists_ofExtended (x : Binary64.Extended) :
    (∀ k, ofExtended x ≠ ofInt k) ∧
      (ofExtended x = .null ∨ ∃ y, ofExtended x = .number (.float y)) := by
  cases x with
  | finite y => exact ⟨fun k => by simp [ofExtended, ofInt], .inr ⟨y, rfl⟩⟩
  | infinite | nan => exact ⟨fun k => by simp [ofExtended, ofInt], .inl rfl⟩

/-- The operations of the catalog are also in the standard registry. -/
theorem agreeOn_power : Registry.AgreeOn {"**"} .catalog .standard := by
  apply Registry.agreeOn_standard
  simp

section Calls

variable {r : Registry} (hr : Registry.AgreeOn {"**"} .catalog r)

include hr

/-- What the power of two integers is computed on. -/
theorem applyOperation_power (location : String) {m n : Int} (hm : isSigned64 m)
    (hn : isSigned64 n) (hnonneg : 0 ≤ n) :
    applyOperation r (ofInt m) "**" [ofInt n] location =
      pure (if isSigned64 (m ^ n.toNat) ∧ n < 2 ^ 32 then ofInt (m ^ n.toNat)
        else ofExtended (.pow (.ofInt m) (.ofInt n))) := by
  have hmem : .maybe "**" (.withOne (computed .power)) ∈ Catalog.entries := by
    simp [Catalog.entries, Catalog.arithmetic]
  rw [hr.applyOperation_withOne hmem rfl (ofInt_ne_null m) (ofInt_ne_null n),
    computed_integers _ hm hn, Quantity.power_integers m hnonneg]
  split <;> rfl

/-- The powers of zero, one and minus one to larger exponents are those to the rounded exponent, and
no integers. -/
theorem exists_applyOperation_power (location : String) {m n : Int}
    (hm : m = 0 ∨ m = 1 ∨ m = -1) (hn : isSigned64 n) (hlarge : 2 ^ 32 ≤ n) :
    ∃ x, x.value = (m : ℚ) ^ (Binary64.nearestInt n).toNat ∧
      applyOperation r (ofInt m) "**" [ofInt n] location = pure (.number (.float x)) := by
  have hsigned : isSigned64 m := by rcases hm with rfl | rfl | rfl <;> decide
  have hsize : n.natAbs ≤ 2 ^ 64 := (natAbs_le_of_isSigned64 hn).trans (by decide)
  obtain ⟨x, hx, hvalue⟩ := Binary64.Extended.exists_pow_ofInt hm (by omega) hsize
  refine ⟨x, hvalue, ?_⟩
  rw [applyOperation_power hr location hsigned hn (by omega), if_neg fun h => by omega, hx]
  rfl

/-- The power of two integers is exact when it has 64 bits with a sign and the exponent 32 bits, and
otherwise it is null or a number that is no integer, so it is never another integer.  If it has 64
bits although the exponent does not have 32 bits, it is a power of zero, one or minus one, and then
it is the power to the nearest number of the exponent. -/
theorem integer_powers (location : String) {m n : Int} (hm : isSigned64 m) (hn : isSigned64 n)
    (hnonneg : 0 ≤ n) :
    let result := applyOperation r (ofInt m) "**" [ofInt n] location
    (result = pure (ofInt (m ^ n.toNat)) ↔ isSigned64 (m ^ n.toNat) ∧ n < 2 ^ 32) ∧
    (∀ k, result = pure (ofInt k) → k = m ^ n.toNat) ∧
    ((∃ k, result = pure (ofInt k)) ∨ result = pure .null ∨
      ∃ x, result = pure (.number (.float x))) ∧
    (isSigned64 (m ^ n.toNat) → 2 ^ 32 ≤ n → (m = 0 ∨ m = 1 ∨ m = -1) ∧
      ∃ x y : Binary64, ∃ k : ℕ, Binary64.IsNearest n y ∧ y.value = k ∧ x.value = (m : ℚ) ^ k ∧
        result = pure (.number (.float x))) := by
  intro result
  have hresult := applyOperation_power hr location hm hn hnonneg
  obtain ⟨hne, hkind⟩ := exists_ofExtended (.pow (.ofInt m) (.ofInt n))
  by_cases hexact : isSigned64 (m ^ n.toNat) ∧ n < 2 ^ 32
  · rw [if_pos hexact] at hresult
    refine ⟨iff_of_true hresult hexact, fun k hk => ?_, .inl ⟨_, hresult⟩, fun _ hlarge => ?_⟩
    · exact Number.integer.inj (Json.number.inj (Run.pure_inj (hk.symm.trans hresult)))
    · exact absurd hexact.2 hlarge.not_gt
  · rw [if_neg hexact] at hresult
    have hnone : ∀ k, result ≠ pure (ofInt k) :=
      fun k hk => hne k (Run.pure_inj (hresult.symm.trans hk))
    refine ⟨iff_of_false (hnone _) hexact, fun k hk => absurd hk (hnone k), .inr ?_, ?_⟩
    · rcases hkind with hnull | ⟨x, hx⟩
      · exact .inl (hresult.trans (congrArg pure hnull))
      · exact .inr ⟨x, hresult.trans (congrArg pure hx)⟩
    · intro hfits hlarge
      have hbase := base_of_isSigned64_pow (by omega) hfits
      obtain ⟨y, hy, hnearest, -⟩ := Binary64.exists_nearest_of_isSigned64 hn
      obtain ⟨x, hx, hfloat⟩ := exists_applyOperation_power hr location hbase hn hlarge
      have hrounded : 0 ≤ Binary64.nearestInt n := by
        unfold Binary64.nearestInt
        split <;> omega
      refine ⟨hbase, x, y, (Binary64.nearestInt n).toNat, hnearest, ?_, hx, hfloat⟩
      rw [Binary64.value_of_ofInt hy, ← Int.cast_natCast, Int.toNat_of_nonneg hrounded]

end Calls

/-- The power `(-2) ** 63` is the least integer of 64 bits with a sign, and `0 ** 0` is one. -/
theorem integer_powers_least :
    Registry.AgreeOn {"**"} .catalog .standard ∧
    isSigned64 (-2) ∧ isSigned64 63 ∧ (0 : Int) ≤ 63 ∧ isSigned64 0 ∧ (0 : Int) ≤ 0 ∧
    applyOperation .standard (ofInt (-2)) "**" [ofInt 63] ".out" =
      pure (ofInt (-9223372036854775808)) ∧
    applyOperation .standard (ofInt 0) "**" [ofInt 0] ".out" = pure (ofInt 1) := by
  have hbase : isSigned64 (-2) := by decide
  have hexponent : isSigned64 63 := by decide
  have hzero : isSigned64 0 := by decide
  have hleast := (integer_powers agreeOn_power ".out" hbase hexponent (by decide)).1.mpr
    (by decide)
  have hone := (integer_powers agreeOn_power ".out" hzero hzero le_rfl).1.mpr (by decide)
  exact ⟨agreeOn_power, hbase, hexponent, by decide, hzero, le_rfl, hleast, hone⟩

/-- The power `1 ** 4294967296` is a number but no integer, although the power of the integers is
one.  The power of minus one to the odd exponent `9007199254740993` is even taken to be one. -/
theorem integer_powers_large :
    (∃ x : Binary64, x.value = 1 ∧
      applyOperation .standard (ofInt 1) "**" [ofInt 4294967296] "" =
        pure (.number (.float x))) ∧
    (∃ x : Binary64, x.value = 1 ∧
      applyOperation .standard (ofInt (-1)) "**" [ofInt 9007199254740993] "" =
        pure (.number (.float x))) ∧
    ¬∀ m n, isSigned64 m → isSigned64 n → 0 ≤ n → isSigned64 (m ^ n.toNat) →
      applyOperation .standard (ofInt m) "**" [ofInt n] "" = pure (ofInt (m ^ n.toNat)) := by
  have hrounded : Binary64.nearestInt 9007199254740993 = 9007199254740992 := rfl
  have heven : Even (Int.toNat 9007199254740992) := Nat.even_iff.mpr (by decide)
  obtain ⟨x, hx, hone⟩ := exists_applyOperation_power agreeOn_power "" (m := 1) (n := 4294967296)
    (by decide) (by decide) (by decide)
  obtain ⟨y, hy, hminus⟩ := exists_applyOperation_power agreeOn_power "" (m := -1)
    (n := 9007199254740993) (by decide) (by decide) (by decide)
  rw [Int.cast_one, one_pow] at hx
  rw [hrounded, Int.cast_neg, Int.cast_one, heven.neg_one_pow] at hy
  refine ⟨⟨x, hx, hone⟩, ⟨y, hy, hminus⟩, fun hexact => ?_⟩
  have hfits : isSigned64 (1 ^ (4294967296 : Int).toNat) := by
    rw [one_pow]
    decide
  have hinteger := hexact 1 4294967296 (by decide) (by decide) (by decide) hfits
  exact absurd (Run.pure_inj (hone.symm.trans hinteger)) nofun

end Reshape
