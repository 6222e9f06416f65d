import Reshape.Proofs.CatalogCalls
import Reshape.Proofs.NearestIntegers

/-!
# Arithmetic on integers

Sums, differences and products of integers of 64 bits with a sign are exact as long as they have 64
bits with a sign, too.  Otherwise they are computed on the nearest binary64 numbers, which stay far
inside the range, so the result is a number but never an integer.  The same holds of the size of an
integer.  A remainder by another number than zero is always an integer.

Main results:

- Definition `ExactOperator`: the operators whose results may need more than 64 bits.
- Theorem `ExactOperator.exists_onReals_ofInt`: out of range they give the nearest number.
- Theorem `fmod_spec`: the remainder has the sign of the divisor and is smaller.
- Theorem `integer_arithmetic`: what the operations give for integers.
-/

namespace Reshape

/-! ## Integers as quantities -/

namespace Binary64

/-- The nearest number of an integer of 64 bits with a sign. -/
theorem exists_nearest_of_isSigned64 {n : Int} (h : isSigned64 n) :
    ∃ x, Extended.ofInt n = .finite x ∧ IsNearest n x ∧ |x.value| ≤ 2 ^ 64 := by
  have hsize := abs_cast_le_two_pow (natAbs_le_of_isSigned64 h)
  obtain ⟨x, hx, hnearest⟩ :=
    (Extended.isRounded_ofInt n).exists_finite_of_le (hsize.trans (by norm_num))
  exact ⟨x, hx, hnearest, hnearest.abs_value_le.trans (by linarith)⟩

end Binary64

namespace Json

/-- An integer of 64 bits with a sign is seen exactly. -/
theorem quantity?_ofInt {n : Int} (h : isSigned64 n) : (ofInt n).quantity? = some (.exact n) :=
  congrArg some (Number.quantity_integer h)

/-- What is computed from two integers of 64 bits with a sign. -/
theorem computed_integers (f : Quantity → Quantity → Quantity) {m n : Int} (hm : isSigned64 m)
    (hn : isSigned64 n) :
    computed f (ofInt m) (ofInt n) = ofQuantity (f (.exact m) (.exact n)) := by
  rw [computed, ofNumbers, quantity?_ofInt hm, quantity?_ofInt hn]

end Json

open Json

/-! ## Operators -/

/-- The operators that give an integer for two integers as long as it has 64 bits with a sign. -/
inductive ExactOperator
  | plus
  | minus
  | times

namespace ExactOperator

/-- The name of an operator. -/
def name : ExactOperator → String
  | plus => "+"
  | minus => "-"
  | times => "*"

/-- The exact result of an operator. -/
def apply {R : Type*} [Ring R] : ExactOperator → R → R → R
  | plus => (· + ·)
  | minus => (· - ·)
  | times => (· * ·)

/-- The rounded result of an operator. -/
def onReals : ExactOperator → Binary64.Extended → Binary64.Extended → Binary64.Extended
  | plus => .add
  | minus => .sub
  | times => .mul

/-- What an operator computes from two values. -/
def compute : ExactOperator → Json → Json → Json
  | plus => Json.add
  | minus => Json.subtract
  | times => Json.multiply

/-- The entries of the operators are in the catalog. -/
theorem entry_mem (op : ExactOperator) :
    .maybe op.name (.withOne op.compute) ∈ Catalog.entries := by
  unfold Catalog.entries
  cases op <;> simp [Catalog.arithmetic, Catalog.Entry.maybe, name, compute]

/-- The rounded result is the exact result, rounded. -/
theorem isRounded_onReals (op : ExactOperator) (x y : Binary64) :
    Binary64.Extended.IsRounded (op.apply x.value y.value)
      (op.onReals (.finite x) (.finite y)) := by
  cases op with
  | plus => exact Binary64.Extended.isRounded_add x y
  | minus => exact Binary64.Extended.isRounded_sub x y
  | times => exact Binary64.Extended.isRounded_mul x y

/-- Two values of up to 64 bits have a result of up to 128 bits. -/
theorem abs_apply_le (op : ExactOperator) {v w : ℚ} (hv : |v| ≤ 2 ^ 64) (hw : |w| ≤ 2 ^ 64) :
    |op.apply v w| ≤ 2 ^ 128 := by
  cases op with
  | plus => exact (abs_add_le v w).trans (by linarith)
  | minus => exact (abs_sub v w).trans (by linarith)
  | times =>
    calc |v * w| = |v| * |w| := abs_mul v w
      _ ≤ 2 ^ 64 * 2 ^ 64 := mul_le_mul hv hw (abs_nonneg w) (by norm_num)
      _ = 2 ^ 128 := by rw [← pow_add]

variable {m n : Int} (hm : isSigned64 m) (hn : isSigned64 n)

include hm hn

/-- On the nearest numbers of two integers an operator gives a number. -/
theorem exists_onReals_ofInt (op : ExactOperator) :
    ∃ x y z, Binary64.IsNearest m x ∧ Binary64.IsNearest n y ∧
      Binary64.IsNearest (op.apply x.value y.value) z ∧
      op.onReals (.ofInt m) (.ofInt n) = .finite z := by
  obtain ⟨x, hx, hmx, hxsize⟩ := Binary64.exists_nearest_of_isSigned64 hm
  obtain ⟨y, hy, hny, hysize⟩ := Binary64.exists_nearest_of_isSigned64 hn
  obtain ⟨z, hz, hnearest⟩ :=
    (op.isRounded_onReals x y).exists_finite_of_le (op.abs_apply_le hxsize hysize)
  exact ⟨x, y, z, hmx, hny, hnearest, by rw [hx, hy, hz]⟩

/-- What an operator computes from two integers. -/
theorem compute_integers (op : ExactOperator) :
    op.compute (ofInt m) (ofInt n) = if isSigned64 (op.apply m n) then ofInt (op.apply m n)
      else ofExtended (op.onReals (.ofInt m) (.ofInt n)) := by
  have hcompute : op.compute (ofInt m) (ofInt n) =
      computed (.combine op.apply op.onReals) (ofInt m) (ofInt n) := by
    cases op <;> rfl
  rw [hcompute, computed_integers _ hm hn, Quantity.combine]
  split <;> rfl

end ExactOperator

/-! ## Sizes and remainders -/

/-- The size of an integer is computed. -/
theorem ofNumber_abs_integer {n : Int} (hn : isSigned64 n) :
    (isSigned64 |n| → ofNumber (fun x => ofQuantity x.abs) (ofInt n) = ofInt |n|) ∧
    (¬isSigned64 |n| → ∃ x : Binary64, x.value = |n| ∧
      ofNumber (fun x => ofQuantity x.abs) (ofInt n) = .number (.float x)) := by
  rw [ofNumber, quantity?_ofInt hn, Option.map_some, Option.getD_some, Quantity.abs,
    Int.natCast_natAbs]
  constructor
  · intro hfits
    rw [if_pos hfits]
    rfl
  · intro hlarge
    -- Only the least integer has a size of more than 63 bits.
    have hleast : n = -9223372036854775808 := by
      rw [isSigned64_iff] at hn hlarge
      rcases abs_cases n with ⟨habs, -⟩ | ⟨habs, -⟩ <;> omega
    obtain ⟨x, hx, -, -⟩ := Binary64.exists_nearest_of_isSigned64 hn
    have hkept : Binary64.nearestInt n = n := by
      rw [hleast]
      rfl
    refine ⟨x.abs, ?_, ?_⟩
    · rw [Binary64.value_abs, Binary64.value_of_ofInt hx, hkept, Int.cast_abs]
    · rw [if_neg hlarge, hx]
      rfl

/-- The remainder of floored division has the sign of the divisor and is smaller than it. -/
theorem fmod_spec (m : Int) {n : Int} (hn : n ≠ 0) :
    n ∣ m - m.fmod n ∧ (m.fmod n = 0 ∨ (m.fmod n).sign = n.sign) ∧ |m.fmod n| < |n| := by
  refine ⟨Int.dvd_self_sub_fmod, ?_⟩
  rcases lt_or_gt_of_ne hn with hneg | hpos
  · have hflip : m.fmod n = -(-m).fmod (-n) := by rw [Int.neg_fmod_neg, neg_neg]
    have hlow := Int.fmod_nonneg_of_pos (-m) (b := -n) (by omega)
    have hhigh := Int.fmod_lt_of_pos (-m) (b := -n) (by omega)
    rw [hflip, abs_neg, abs_of_nonneg hlow, abs_of_neg hneg, Int.sign_eq_neg_one_of_neg hneg]
    refine ⟨?_, hhigh⟩
    rcases hlow.eq_or_lt with hzero | hlt
    · exact .inl (by rw [← hzero, neg_zero])
    · exact .inr (Int.sign_eq_neg_one_of_neg (by omega))
  · have hlow := Int.fmod_nonneg_of_pos m hpos
    have hhigh := Int.fmod_lt_of_pos m hpos
    rw [abs_of_nonneg hlow, abs_of_pos hpos, Int.sign_eq_one_of_pos hpos]
    refine ⟨?_, hhigh⟩
    rcases hlow.eq_or_lt with hzero | hlt
    · exact .inl hzero.symm
    · exact .inr (Int.sign_eq_one_of_pos hlt)

/-- The remainder of floored division by an integer of 64 bits with a sign has them, too. -/
theorem isSigned64_fmod (m : Int) {n : Int} (hn : isSigned64 n) (hne : n ≠ 0) :
    isSigned64 (m.fmod n) := by
  obtain ⟨-, -, hsmall⟩ := fmod_spec m hne
  have hle := natAbs_le_of_isSigned64 hn
  rw [Int.abs_eq_natAbs, Int.abs_eq_natAbs] at hsmall
  rw [isSigned64_iff]
  omega

/-- The remainder of truncated division has the sign of the dividend.  With the divisor added
when that is not the sign of the divisor, it is the remainder of floored division. -/
theorem corrected_tmod (m n : Int) :
    (if m.tmod n ≠ 0 ∧ decide (m.tmod n < 0) ≠ decide (n < 0) then m.tmod n + n else m.tmod n) =
      m.fmod n := by
  rw [Int.fmod_eq_tmod]
  by_cases hdvd : n ∣ m
  · simp [hdvd, Int.tmod_eq_zero_of_dvd hdvd]
  · have hne : m.tmod n ≠ 0 := fun hzero => hdvd (Int.dvd_of_tmod_eq_zero hzero)
    have hsign : m.tmod n < 0 ↔ m < 0 := by
      rw [← Int.sign_eq_neg_one_iff_neg, Int.sign_tmod, if_neg hdvd, Int.sign_eq_neg_one_iff_neg]
    simp only [hne, hsign, hdvd, if_false, ne_eq, not_false_eq_true, true_and, decide_eq_decide]
    split <;> split <;> split <;> omega

/-- Only minus one can give a quotient that needs one more bit, and it leaves no rest. -/
theorem fmod_eq_zero_of_tdiv {m n : Int} (hm : isSigned64 m) (h : ¬isSigned64 (m.tdiv n)) :
    m.fmod n = 0 := by
  have hquotient : 2 ^ 63 ≤ m.natAbs / n.natAbs := by
    rw [isSigned64_iff] at h
    have habs : (m.tdiv n).natAbs = m.natAbs / n.natAbs := Int.natAbs_tdiv m n
    omega
  have hbound := natAbs_le_of_isSigned64 hm
  have hzero : n.natAbs ≠ 0 := by
    intro hzero
    rw [hzero, Nat.div_zero] at hquotient
    omega
  have htwo : ¬2 ≤ n.natAbs := by
    intro hge
    have hle := Nat.div_le_div_left hge (a := m.natAbs) (by decide)
    omega
  have hone : n.natAbs = 1 := by omega
  exact Int.fmod_eq_zero_of_dvd (Int.natAbs_dvd.mp (by simp [hone]))

/-- The remainder of two integers is that of floored division, and stays in range. -/
theorem modulo?_exact {m n : Int} (hm : isSigned64 m) (hn : isSigned64 n) (hne : n ≠ 0) :
    Quantity.modulo? (.exact m) (.exact n) = some (.exact (m.fmod n)) ∧
      isSigned64 (m.fmod n) := by
  refine ⟨?_, isSigned64_fmod m hn hne⟩
  rw [Quantity.modulo?, if_neg hne, Quantity.remainder?]
  by_cases hquotient : isSigned64 (m.tdiv n)
  · rw [if_pos hquotient, ← corrected_tmod m n]
    dsimp only
    split <;> rfl
  · rw [if_neg hquotient, fmod_eq_zero_of_tdiv hm hquotient]

/-- The remainder of two integers is computed. -/
theorem modulo_integers {m n : Int} (hm : isSigned64 m) (hn : isSigned64 n) :
    modulo (ofInt m) (ofInt n) = if n = 0 then .null else ofInt (m.fmod n) := by
  rw [modulo, ofNumbers, quantity?_ofInt hm, quantity?_ofInt hn]
  dsimp only
  split
  next hzero => simp [hzero, Quantity.modulo?]
  next hne =>
    rw [(modulo?_exact hm hn hne).1]
    rfl

/-- There is no quotient by zero. -/
theorem divide_zero {m : Int} (hm : isSigned64 m) : divide (ofInt m) (ofInt 0) = .null := by
  have hzero : Quantity.isNonzero (.exact 0) = false := by
    obtain ⟨x, hx, -⟩ := Binary64.exists_nearest_of_isSigned64 (n := 0) (by decide)
    rw [Quantity.isNonzero, Quantity.toExtended, hx, Binary64.Extended.isZero,
      Binary64.isZero_of_ofInt hx]
    rfl
  rw [divide, ofNumbers, quantity?_ofInt hm, quantity?_ofInt (by decide)]
  simp only [hzero, Bool.false_eq_true, if_false]

/-! ## Calls -/

/-- The names of the operations. -/
def arithmeticNames : Set String :=
  Set.range ExactOperator.name ∪ {"abs", "%", "/"}

/-- The operations of the catalog are also in the standard registry. -/
theorem agreeOn_arithmeticNames : Registry.AgreeOn arithmeticNames .catalog .standard := by
  apply Registry.agreeOn_standard
  rintro (⟨op, hname⟩ | hname)
  · cases op <;> exact absurd hname (by decide)
  · simp at hname

section Calls

variable {r : Registry} (hr : Registry.AgreeOn arithmeticNames .catalog r)

include hr

/-- An operation on two integers gives what it computes. -/
theorem applyOperation_integers {name : String} {f : Json → Json → Json}
    (hmem : .maybe name (.withOne f) ∈ Catalog.entries) (hname : name ∈ arithmeticNames)
    (m n : Int) (location : String) :
    applyOperation r (ofInt m) name [ofInt n] location = pure (f (ofInt m) (ofInt n)) :=
  hr.applyOperation_withOne hmem hname (ofInt_ne_null m) (ofInt_ne_null n) location

/-- Sums, differences and products of integers of 64 bits with a sign are exact when they have 64
bits with a sign.  Otherwise they are the nearest number to what the nearest numbers of the two
integers give, and this is never null and never an integer.  The size of an integer is exact, too,
but a number when it needs one more bit.  The remainder by an integer other than zero is always an
integer, with the sign of the divisor and smaller than it.  By zero there is neither a remainder nor
a quotient. -/
theorem integer_arithmetic (location : String) {m n : Int} (hm : isSigned64 m)
    (hn : isSigned64 n) :
    (∀ op : ExactOperator,
      (isSigned64 (op.apply m n) →
        applyOperation r (ofInt m) op.name [ofInt n] location = pure (ofInt (op.apply m n))) ∧
      (¬isSigned64 (op.apply m n) → ∃ x y z, Binary64.IsNearest m x ∧ Binary64.IsNearest n y ∧
        Binary64.IsNearest (op.apply x.value y.value) z ∧
        applyOperation r (ofInt m) op.name [ofInt n] location = pure (.number (.float z)))) ∧
    (isSigned64 |m| → applyOperation r (ofInt m) "abs" [] location = pure (ofInt |m|)) ∧
    (¬isSigned64 |m| → ∃ x : Binary64, x.value = |m| ∧
      applyOperation r (ofInt m) "abs" [] location = pure (.number (.float x))) ∧
    (n ≠ 0 → ∃ rest : Int,
      applyOperation r (ofInt m) "%" [ofInt n] location = pure (ofInt rest) ∧
      n ∣ m - rest ∧ (rest = 0 ∨ rest.sign = n.sign) ∧ |rest| < |n|) ∧
    applyOperation r (ofInt m) "%" [ofInt 0] location = pure .null ∧
    applyOperation r (ofInt m) "/" [ofInt 0] location = pure .null := by
  have hzero : isSigned64 0 := by decide
  have habs : applyOperation r (ofInt m) "abs" [] location =
      pure (ofNumber (fun x => ofQuantity x.abs) (ofInt m)) := by
    have hmem : .maybe "abs" (.alone (ofNumber fun x => .ofQuantity x.abs)) ∈
        Catalog.entries := by
      simp [Catalog.entries, Catalog.functions]
    exact hr.applyOperation_alone hmem (.inr (by simp)) (ofInt_ne_null m) location
  have hmodulo : .maybe "%" (.withOne modulo) ∈ Catalog.entries := by
    simp [Catalog.entries, Catalog.arithmetic]
  have hdivide : .maybe "/" (.withOne divide) ∈ Catalog.entries := by
    simp [Catalog.entries, Catalog.arithmetic]
  obtain ⟨hsize, hlarge⟩ := ofNumber_abs_integer hm
  refine ⟨fun op => ?_, ?_, ?_, ?_, ?_, ?_⟩
  · rw [applyOperation_integers hr op.entry_mem (.inl (Set.mem_range_self op)),
      op.compute_integers hm hn]
    refine ⟨fun hfits => by rw [if_pos hfits], fun hoverflow => ?_⟩
    obtain ⟨x, y, z, hmx, hny, hnearest, hz⟩ := op.exists_onReals_ofInt hm hn
    exact ⟨x, y, z, hmx, hny, hnearest, by rw [if_neg hoverflow, hz]; rfl⟩
  · intro hfits
    rw [habs, hsize hfits]
  · intro hoverflow
    obtain ⟨x, hvalue, hx⟩ := hlarge hoverflow
    exact ⟨x, hvalue, by rw [habs, hx]⟩
  · intro hne
    refine ⟨m.fmod n, ?_, fmod_spec m hne⟩
    rw [applyOperation_integers hr hmodulo (.inr (by simp)), modulo_integers hm hn, if_neg hne]
  · rw [applyOperation_integers hr hmodulo (.inr (by simp)), modulo_integers hm hzero, if_pos rfl]
  · rw [applyOperation_integers hr hdivide (.inr (by simp)), divide_zero hm]

end Calls

/-- The least integer and minus one: their difference is exact, their product and the size of the
least integer need one more bit, and there is no rest. -/
theorem integer_arithmetic_least :
    Registry.AgreeOn arithmeticNames .catalog .standard ∧
    isSigned64 (-9223372036854775808) ∧ isSigned64 (-1) ∧ (-1 : Int) ≠ 0 ∧
    applyOperation .standard (ofInt (-9223372036854775808)) "-" [ofInt (-1)] ".out" =
      pure (ofInt (-9223372036854775807)) ∧
    (∃ z, applyOperation .standard (ofInt (-9223372036854775808)) "*" [ofInt (-1)] ".out" =
      pure (.number (.float z))) ∧
    (∃ z : Binary64, z.value = (9223372036854775808 : Int) ∧
      applyOperation .standard (ofInt (-9223372036854775808)) "abs" [] ".out" =
        pure (.number (.float z))) ∧
    applyOperation .standard (ofInt (-9223372036854775808)) "%" [ofInt (-1)] ".out" =
      pure (ofInt 0) := by
  have hm : isSigned64 (-9223372036854775808) := by decide
  have hn : isSigned64 (-1) := by decide
  have hne : (-1 : Int) ≠ 0 := by decide
  obtain ⟨hop, -, hsize, hmodulo, -⟩ := integer_arithmetic agreeOn_arithmeticNames ".out" hm hn
  obtain ⟨_, _, z, -, -, -, hproduct⟩ := (hop .times).2 (by decide)
  obtain ⟨rest, hrest, -, -, hsmall⟩ := hmodulo hne
  obtain rfl : rest = 0 := Int.abs_lt_one_iff.mp hsmall
  exact ⟨agreeOn_arithmeticNames, hm, hn, hne, (hop .minus).1 (by decide), ⟨z, hproduct⟩,
    hsize (by decide), hrest⟩

end Reshape
