import Mathlib.Algebra.Order.Ring.Rat
import Mathlib.Tactic.FieldSimp
import Mathlib.Tactic.Linarith
import Mathlib.Tactic.Positivity
import Mathlib.Tactic.Ring
import Reshape.Binary64.Rounding

/-!
# Rounding of quotients

A quotient is rounded on the grid that has 53 bits before the point.  On that grid the
result is nearest, and no binary64 number off the grid comes nearer, because all of them
lie below its first point.  So the result is nearest among all binary64 numbers, and the
one with the even significand of two that are equally near.

Main results:

- Theorem `ext_of_magnitude`: a sign and a size are stored in one way only.
- Theorem `Extended.abs_sub_le_magnitude`: no number is nearer than the rounded one.
- Definition `NearestSize`: the number that a size has to be rounded to.
- Theorem `Extended.ofQuotient_eq_finite_iff`: a quotient is rounded to the nearest number.
-/

namespace Reshape

namespace Binary64

/-! ## Storage -/

/-- A number is stored in one way only. -/
theorem ext_of_magnitude {x y : Binary64} (hsign : x.negative = y.negative)
    (h : x.magnitude = y.magnitude) : x = y := by
  rcases x with ⟨s, m, e, hm, he, hc⟩
  rcases y with ⟨t, n, f, hn, hf, hd⟩
  simp only [magnitude, Nat.shiftLeft_eq] at h hsign
  subst hsign
  have key : ∀ {m n e f : Nat}, m < 0x20000000000000 → (f = 0 ∨ 0x10000000000000 ≤ n) →
      e < f → m * 2 ^ e ≠ n * 2 ^ f := by
    intro m n e f hm hd hlt h
    obtain ⟨d, rfl⟩ : ∃ d, f = e + (d + 1) := ⟨f - e - 1, by omega⟩
    rw [pow_add, mul_comm (2 ^ e), ← mul_assoc, pow_succ] at h
    have hmn : m = n * (2 ^ d * 2) := Nat.eq_of_mul_eq_mul_right (Nat.two_pow_pos e) h
    have hle : n * 1 ≤ n * 2 ^ d := Nat.mul_le_mul_left n Nat.one_le_two_pow
    rw [← mul_assoc] at hmn
    omega
  obtain rfl : e = f := by
    rcases lt_trichotomy e f with hlt | heq | hlt
    · exact absurd h (key hm hd hlt)
    · exact heq
    · exact absurd h.symm (key hn hc hlt)
  obtain rfl : m = n := Nat.eq_of_mul_eq_mul_right (Nat.two_pow_pos e) h
  rfl

/-! ## Grids -/

/-- A whole number nearest to a quotient is at most half away from it, and even when it is
exactly half away. -/
theorem two_mul_abs_sub_roundHalfEven (num : Nat) {den : Nat} (h : 0 < den) :
    2 * |(num : ℤ) - roundHalfEven num den * den| ≤ den ∧
      (2 * |(num : ℤ) - roundHalfEven num den * den| = den → roundHalfEven num den % 2 = 0) := by
  have hnum : (num : ℤ) = (num / den : ℕ) * den + (num % den : ℕ) := by
    have := Nat.div_add_mod' num den
    exact_mod_cast this.symm
  have hlt := Nat.mod_lt num h
  unfold roundHalfEven
  dsimp only
  split
  · have hdist : (num : ℤ) - (num / den + 1 : ℕ) * den = -(den - (num % den : ℕ)) := by
      rw [hnum]
      push_cast
      ring_nf
    rw [hdist, abs_neg, abs_of_nonneg (by omega)]
    omega
  · have hdist : (num : ℤ) - (num / den : ℕ) * den = (num % den : ℕ) := by
      linarith
    rw [hdist, abs_of_nonneg (by omega)]
    omega

/-- On the grid with the given step the rounded quotient is at most half a step away, and even
when it is exactly half a step away. -/
theorem abs_sub_roundHalfEven_le (num shift : Nat) {den : Nat} (h : 0 < den) :
    |(num / den : ℚ) - roundHalfEven num (den <<< shift) * 2 ^ shift| ≤ 2 ^ shift / 2 ∧
      (|(num / den : ℚ) - roundHalfEven num (den <<< shift) * 2 ^ shift| = 2 ^ shift / 2 →
        roundHalfEven num (den <<< shift) % 2 = 0) := by
  rw [Nat.shiftLeft_eq]
  have hpos : 0 < den * 2 ^ shift := by positivity
  rcases two_mul_abs_sub_roundHalfEven num hpos with ⟨hle, heven⟩
  generalize roundHalfEven num (den * 2 ^ shift) = m at *
  have hden : (0 : ℚ) < den := by exact_mod_cast h
  have hscale : |(num / den : ℚ) - m * 2 ^ shift| =
      ((|(num : ℤ) - m * (den * 2 ^ shift : ℕ)| : ℤ) : ℚ) / den := by
    rw [Int.cast_abs, ← abs_of_pos hden, ← abs_div, abs_of_pos hden]
    congr 1
    push_cast
    field_simp
  rw [hscale]
  generalize |(num : ℤ) - m * (den * 2 ^ shift : ℕ)| = distance at *
  constructor
  · have hcast : (2 : ℚ) * distance ≤ den * 2 ^ shift := by exact_mod_cast hle
    rw [div_le_div_iff₀ hden two_pos]
    linarith
  · intro heq
    apply heven
    rw [div_eq_div_iff hden.ne' two_ne_zero] at heq
    have hcast : (2 : ℚ) * distance = den * 2 ^ shift := by linarith
    exact_mod_cast hcast

/-- On a grid, a point at most half a step away is nearest, and only a neighbour can be equally
near, when both are half a step away. -/
theorem abs_sub_le_of_half {q step : ℚ} (hstep : 0 < step) {m n : ℕ}
    (h : |q - m * step| ≤ step / 2) (hne : n ≠ m) :
    |q - m * step| ≤ |q - n * step| ∧
      (|q - n * step| = |q - m * step| → |q - m * step| = step / 2 ∧ n % 2 ≠ m % 2) := by
  rcases abs_le.mp h with ⟨hlow, hhigh⟩
  rcases Nat.lt_or_gt_of_ne hne with hlt | hlt
  · have hgap : (n + 1) * step ≤ m * step := by
      have : (n : ℚ) + 1 ≤ m := by exact_mod_cast hlt
      exact mul_le_mul_of_nonneg_right this hstep.le
    have hsign : |q - n * step| = q - n * step := abs_of_nonneg (by linarith)
    refine ⟨by rw [hsign]; linarith, fun heq => ?_⟩
    have hhalf : |q - m * step| = step / 2 := by
      rw [hsign] at heq
      linarith
    refine ⟨hhalf, ?_⟩
    have hm : (m : ℚ) ≤ n + 1 := by
      have : m * step ≤ (n + 1) * step := by linarith
      exact le_of_mul_le_mul_right this hstep
    have : m ≤ n + 1 := by exact_mod_cast hm
    omega
  · have hgap : (m + 1) * step ≤ n * step := by
      have : (m : ℚ) + 1 ≤ n := by exact_mod_cast hlt
      exact mul_le_mul_of_nonneg_right this hstep.le
    have hsign : |q - n * step| = -(q - n * step) := abs_of_nonpos (by linarith)
    refine ⟨by rw [hsign]; linarith, fun heq => ?_⟩
    have hhalf : |q - m * step| = step / 2 := by
      rw [hsign] at heq
      linarith
    refine ⟨hhalf, ?_⟩
    have hm : (n : ℚ) ≤ m + 1 := by
      have : n * step ≤ (m + 1) * step := by linarith
      exact le_of_mul_le_mul_right this hstep
    have : n ≤ m + 1 := by exact_mod_cast hm
    omega

/-! ## Rounded quotients -/

namespace Extended

variable (num : Nat) {den : Nat}

/-- The quotient is below the numbers with a larger shift. -/
theorem lt_of_shiftFor (h : 0 < den) : (num / den : ℚ) < 2 ^ 53 * 2 ^ shiftFor num den := by
  have hfloor : num / den < 2 ^ 53 * 2 ^ shiftFor num den := by
    calc num / den < 2 ^ ((num / den).log2 + 1) := Nat.lt_log2_self
      _ ≤ 2 ^ (53 + shiftFor num den) := by
        apply Nat.pow_le_pow_right two_pos
        unfold shiftFor
        omega
      _ = 2 ^ 53 * 2 ^ shiftFor num den := pow_add 2 53 _
  have hden : (0 : ℚ) < den := by exact_mod_cast h
  rw [div_lt_iff₀ hden]
  exact_mod_cast (Nat.div_lt_iff_lt_mul h).mp hfloor

/-- With a shift the quotient has all 53 bits before the point. -/
theorem le_of_shiftFor (h : 0 < den) (hshift : shiftFor num den ≠ 0) :
    2 ^ 52 * 2 ^ shiftFor num den ≤ (num / den : ℚ) := by
  have hlog : (num / den).log2 = 52 + shiftFor num den := by
    unfold shiftFor at *
    omega
  have hne : num / den ≠ 0 := by
    intro hzero
    rw [hzero, Nat.log2_zero] at hlog
    omega
  have hfloor : 2 ^ 52 * 2 ^ shiftFor num den ≤ num / den := by
    rw [← pow_add, ← hlog]
    exact Nat.log2_self_le hne
  have hden : (0 : ℚ) < den := by exact_mod_cast h
  rw [le_div_iff₀ hden]
  exact_mod_cast (Nat.le_div_iff_mul_le h).mp hfloor

/-- The significand before a carry. -/
def significandFor (num den : Nat) : Nat :=
  roundHalfEven num (den <<< shiftFor num den)

/-- The significand is at most half a step away from the quotient. -/
theorem abs_sub_significandFor_le (h : 0 < den) :
    |(num / den : ℚ) - significandFor num den * 2 ^ shiftFor num den| ≤
      2 ^ shiftFor num den / 2 :=
  (abs_sub_roundHalfEven_le num _ h).1

/-- A significand that is exactly half a step away is even. -/
theorem significandFor_even (h : 0 < den)
    (hhalf : |(num / den : ℚ) - significandFor num den * 2 ^ shiftFor num den| =
      2 ^ shiftFor num den / 2) : significandFor num den % 2 = 0 :=
  (abs_sub_roundHalfEven_le num _ h).2 hhalf

/-- The significand is not too large. -/
theorem significandFor_le (h : 0 < den) : significandFor num den ≤ 2 ^ 53 := by
  have hlt := lt_of_shiftFor num h
  have hhalf := (abs_le.mp (abs_sub_significandFor_le num h)).1
  have hpos : (0 : ℚ) < 2 ^ shiftFor num den := by positivity
  have : (significandFor num den : ℚ) * 2 ^ shiftFor num den <
      (2 ^ 53 + 1) * 2 ^ shiftFor num den := by linarith
  have hcast : (significandFor num den : ℚ) < 2 ^ 53 + 1 := lt_of_mul_lt_mul_right this hpos.le
  have : significandFor num den < 2 ^ 53 + 1 := by exact_mod_cast hcast
  omega

/-- The significand is large enough. -/
theorem le_significandFor (h : 0 < den) (hshift : shiftFor num den ≠ 0) :
    2 ^ 52 ≤ significandFor num den := by
  have hle := le_of_shiftFor num h hshift
  have hhalf := (abs_le.mp (abs_sub_significandFor_le num h)).2
  have hpos : (0 : ℚ) < 2 ^ shiftFor num den := by positivity
  have : (2 ^ 52 : ℚ) * 2 ^ shiftFor num den <
      (significandFor num den + 1) * 2 ^ shiftFor num den := by linarith
  have hcast : (2 ^ 52 : ℚ) < significandFor num den + 1 := lt_of_mul_lt_mul_right this hpos.le
  have : 2 ^ 52 < significandFor num den + 1 := by exact_mod_cast hcast
  omega

/-- A number with a smaller shift is below the numbers with all 53 bits. -/
theorem magnitude_lt_of_shift_lt {y : Binary64} {s : Nat} (h : y.shift < s) :
    (y.magnitude : ℚ) < 2 ^ 52 * 2 ^ s := by
  obtain ⟨d, rfl⟩ : ∃ d, s = y.shift + (d + 1) := ⟨s - y.shift - 1, by omega⟩
  have hlt : y.magnitude < 2 ^ 52 * 2 ^ (y.shift + (d + 1)) := by
    calc y.magnitude = y.significand * 2 ^ y.shift := by rw [magnitude, Nat.shiftLeft_eq]
      _ < 2 ^ 53 * 2 ^ y.shift :=
        Nat.mul_lt_mul_of_pos_right y.significand_lt (Nat.two_pow_pos _)
      _ ≤ 2 ^ 53 * 2 ^ y.shift * 2 ^ d := Nat.le_mul_of_pos_right _ (Nat.two_pow_pos d)
      _ = 2 ^ 52 * 2 ^ (y.shift + (d + 1)) := by ring
  exact_mod_cast hlt

/-- Of the numbers on a grid none is nearer than the nearest point, and another that is equally
near has an odd significand. -/
theorem abs_sub_le_of_le_shift {q : ℚ} {m s : ℕ} (hnear : |q - m * 2 ^ s| ≤ 2 ^ s / 2)
    (heven : |q - m * 2 ^ s| = 2 ^ s / 2 → m % 2 = 0) {y : Binary64} (hshift : s ≤ y.shift) :
    |q - m * 2 ^ s| ≤ |q - y.magnitude| ∧
      (y.magnitude ≠ m * 2 ^ s → |q - y.magnitude| = |q - m * 2 ^ s| →
        m % 2 = 0 ∧ y.significand % 2 = 1) := by
  have hpos : (0 : ℚ) < 2 ^ s := by positivity
  obtain ⟨d, hd⟩ := Nat.exists_eq_add_of_le hshift
  have hy : y.magnitude = y.significand * 2 ^ d * 2 ^ s := by
    rw [magnitude, Nat.shiftLeft_eq, hd, pow_add]
    ring
  have hcast : (y.magnitude : ℚ) = (y.significand * 2 ^ d : ℕ) * 2 ^ s := by
    rw [hy]
    push_cast
    ring
  rw [hcast]
  by_cases hne : y.significand * 2 ^ d = m
  · subst hne
    exact ⟨le_rfl, fun hmag => absurd hy hmag⟩
  · rcases abs_sub_le_of_half hpos hnear hne with ⟨hclosest, htie⟩
    refine ⟨hclosest, fun _ heq => ?_⟩
    rcases htie heq with ⟨hhalf, hparity⟩
    have hm := heven hhalf
    refine ⟨hm, ?_⟩
    cases d with
    | zero =>
      simp only [pow_zero, mul_one] at hparity
      omega
    | succ d =>
      rw [pow_succ, ← mul_assoc] at hparity
      omega

/-- Numbers below a grid are farther away than its nearest point, when the first point is not
above. -/
theorem abs_sub_lt_of_shift_lt {q : ℚ} {m s : ℕ} (hnear : |q - m * 2 ^ s| ≤ 2 ^ s / 2)
    (hfirst : 2 ^ 52 * 2 ^ s ≤ q) {y : Binary64} (hshift : y.shift < s) :
    |q - m * 2 ^ s| < |q - y.magnitude| := by
  have hpos : (0 : ℚ) < 2 ^ s := by positivity
  have hbelow := magnitude_lt_of_shift_lt hshift
  have hmiddle : |q - m * 2 ^ s| ≤ |q - (2 ^ 52 : ℕ) * 2 ^ s| := by
    by_cases hne : 2 ^ 52 = m
    · rw [hne]
    · exact (abs_sub_le_of_half hpos hnear hne).1
  have hcast : ((2 ^ 52 : ℕ) : ℚ) = 2 ^ 52 := by norm_num
  rw [hcast, abs_of_nonneg (a := q - 2 ^ 52 * 2 ^ s) (by linarith)] at hmiddle
  rw [abs_of_nonneg (a := q - y.magnitude) (by linarith)]
  linarith

/-- No number is nearer to the quotient than the rounded one, and another that is equally near
has an odd significand. -/
theorem abs_sub_le_magnitude (h : 0 < den) (y : Binary64) :
    |(num / den : ℚ) - significandFor num den * 2 ^ shiftFor num den| ≤
        |(num / den : ℚ) - y.magnitude| ∧
      (y.magnitude ≠ significandFor num den * 2 ^ shiftFor num den →
        |(num / den : ℚ) - y.magnitude| =
          |(num / den : ℚ) - significandFor num den * 2 ^ shiftFor num den| →
        significandFor num den % 2 = 0 ∧ y.significand % 2 = 1) := by
  have hnear := abs_sub_significandFor_le num h
  rcases le_or_gt (shiftFor num den) y.shift with hshift | hshift
  · exact abs_sub_le_of_le_shift hnear (significandFor_even num h) hshift
  · have hfirst := le_of_shiftFor num h (by omega)
    have hlt := abs_sub_lt_of_shift_lt hnear hfirst hshift
    exact ⟨hlt.le, fun _ heq => absurd heq hlt.ne'⟩

/-- A significand that is rounded up to `2 ^ 53` is carried to the next shift. -/
theorem exists_parts (negative : Bool) (h : 0 < den) :
    ∃ significand shift, ofQuotient negative num den = ofParts negative significand shift ∧
      significand < 2 ^ 53 ∧ (shift = 0 ∨ 2 ^ 52 ≤ significand) ∧
      significand * 2 ^ shift = significandFor num den * 2 ^ shiftFor num den ∧
      (significandFor num den % 2 = 0 → significand % 2 = 0) ∧
      (shift = shiftFor num den ∧ significandFor num den ≠ 2 ^ 53 ∨
        shift = shiftFor num den + 1 ∧ significandFor num den = 2 ^ 53) := by
  have hle := significandFor_le num h
  have hge := le_significandFor num h
  by_cases hcarry : significandFor num den = 2 ^ 53
  · refine ⟨2 ^ 52, shiftFor num den + 1, ?_, by decide, .inr le_rfl, ?_, fun _ => by decide,
      .inr ⟨rfl, hcarry⟩⟩
    · exact if_pos hcarry
    · rw [hcarry]
      ring
  · refine ⟨significandFor num den, shiftFor num den, if_neg hcarry, by omega, ?_, rfl, id,
      .inl ⟨rfl, hcarry⟩⟩
    by_cases hshift : shiftFor num den = 0
    · exact .inl hshift
    · exact .inr (hge hshift)

/-- The first sizes, in units, that are rounded to an infinity: half-way between the largest
number and the next power of two. -/
def limit : ℚ :=
  (2 ^ 54 - 1) * 2 ^ 2044

/-- A quotient below the limit needs no shift past the last one. -/
theorem shift_le_of_lt_limit (h : 0 < den) (hlt : (num / den : ℚ) < limit) :
    shiftFor num den ≤ 2045 ∧
      (shiftFor num den = 2045 → significandFor num den ≠ 2 ^ 53) := by
  have hle := le_of_shiftFor num h
  have hhalf := abs_sub_significandFor_le num h
  have hpos : (0 : ℚ) < 2 ^ 2044 := by positivity
  have hlast : (2 : ℚ) ^ 2045 = 2 ^ 2044 * 2 := pow_succ 2 2044
  have hpast : 2045 < shiftFor num den → (2 : ℚ) ^ 2044 * 4 ≤ 2 ^ shiftFor num den := by
    intro hgt
    calc (2 : ℚ) ^ 2044 * 4 = 2 ^ (2044 + 2) := by rw [pow_add]; norm_num
      _ ≤ 2 ^ shiftFor num den := pow_le_pow_right₀ one_le_two hgt
  unfold limit at hlt
  generalize (2 : ℚ) ^ 2044 = unit at *
  constructor
  · clear hlast hhalf
    by_contra hgt
    have hstep := hpast (by omega)
    have hfirst := hle (by omega)
    linarith
  · intro hshift hcarry
    rw [hshift, hlast, hcarry] at hhalf
    clear hlast
    have hlow := (abs_le.mp hhalf).1
    push_cast at hlow
    linarith

/-- What is rounded with an earlier shift than the last one is below the limit. -/
theorem lt_limit_of_shift_lt {q : ℚ} {m s : ℕ} (hnear : |q - m * 2 ^ s| ≤ 2 ^ s / 2)
    (hm : m ≤ 2 ^ 53) (hshift : s < 2045) : q < limit := by
  have hstep : (2 : ℚ) ^ s ≤ 2 ^ 2044 := pow_le_pow_right₀ one_le_two (by omega)
  have hpos : (0 : ℚ) < 2 ^ 2044 := by positivity
  have hhigh := (abs_le.mp hnear).2
  unfold limit
  generalize (2 : ℚ) ^ 2044 = unit at *
  have hmul : (m : ℚ) * 2 ^ s ≤ 2 ^ 53 * unit :=
    mul_le_mul (by exact_mod_cast hm) hstep (by positivity) (by positivity)
  linarith

/-- What is rounded with the last shift and without a carry is below the limit.  The limit
itself is half-way behind an odd significand, so it is rounded up. -/
theorem lt_limit_of_last {q : ℚ} {m : ℕ} (hnear : |q - m * 2 ^ 2045| ≤ 2 ^ 2045 / 2)
    (heven : |q - m * 2 ^ 2045| = 2 ^ 2045 / 2 → m % 2 = 0) (hm : m < 2 ^ 53) : q < limit := by
  have hlast : (2 : ℚ) ^ 2045 = 2 ^ 2044 * 2 := pow_succ 2 2044
  have hpos : (0 : ℚ) < 2 ^ 2044 := by positivity
  rw [hlast] at hnear heven
  clear hlast
  unfold limit
  generalize (2 : ℚ) ^ 2044 = unit at *
  have hhigh := (abs_le.mp hnear).2
  have hmul : (m + 1 : ℚ) * unit ≤ 2 ^ 53 * unit :=
    mul_le_mul_of_nonneg_right (by exact_mod_cast hm) hpos.le
  by_contra hge
  rw [not_lt] at hge
  have hcast : (m : ℚ) + 1 = 2 ^ 53 := by
    have hlimit : (m + 1 : ℚ) * unit = 2 ^ 53 * unit := by linarith
    exact mul_right_cancel₀ hpos.ne' hlimit
  have hodd : m + 1 = 2 ^ 53 := by exact_mod_cast hcast
  have hhalfway : |q - m * (unit * 2)| = unit * 2 / 2 := by
    have hmq : (m : ℚ) = 2 ^ 53 - 1 := by linarith
    rw [hmq] at hhigh ⊢
    rw [abs_of_nonneg (by linarith)]
    linarith
  have := heven hhalfway
  omega

/-- A rounded quotient whose shift is not past the last one is below the limit. -/
theorem lt_limit_of_shift_le (h : 0 < den) (hshift : shiftFor num den ≤ 2045)
    (hcarry : shiftFor num den = 2045 → significandFor num den ≠ 2 ^ 53) :
    (num / den : ℚ) < limit := by
  have hnear := abs_sub_significandFor_le num h
  have heven := significandFor_even num h
  have hle := significandFor_le num h
  rcases Nat.lt_or_eq_of_le hshift with hlt | hlast
  · exact lt_limit_of_shift_lt hnear hle hlt
  · have hm := lt_of_le_of_ne hle (hcarry hlast)
    rw [hlast] at hnear heven
    exact lt_limit_of_last hnear heven hm

end Extended

/-! ## Nearest sizes -/

/-- A number whose size is nearest to `q` units, and even if another one is equally near. -/
structure NearestSize (q : ℚ) (x : Binary64) : Prop where
  closest (y : Binary64) : |q - x.magnitude| ≤ |q - y.magnitude|
  even_of_tie (y : Binary64) (hne : y.magnitude ≠ x.magnitude)
    (htie : |q - y.magnitude| = |q - x.magnitude|) : x.significand % 2 = 0
  lt_limit : q < Extended.limit

namespace Extended

variable {num den : Nat} {negative : Bool} {x : Binary64}

/-- Parts that are stored are those of the number. -/
theorem ofParts_eq_finite_iff {significand shift : Nat} :
    ofParts negative significand shift = .finite x ↔
      negative = x.negative ∧ significand = x.significand ∧ shift = x.shift := by
  constructor
  · unfold ofParts
    split
    · rintro ⟨⟩
      exact ⟨rfl, rfl, rfl⟩
    · rintro ⟨⟩
  · rintro ⟨rfl, rfl, rfl⟩
    exact ofParts_eq_finite x

/-- What a quotient is rounded to is nearest to it. -/
theorem nearestSize_of_ofQuotient (h : 0 < den) (hx : ofQuotient negative num den = .finite x) :
    x.negative = negative ∧ x.magnitude = significandFor num den * 2 ^ shiftFor num den ∧
      NearestSize (num / den) x := by
  rcases exists_parts num negative h with
    ⟨significand, shift, hparts, -, -, hsize, heven, hcarry⟩
  rw [hparts, ofParts_eq_finite_iff] at hx
  rcases hx with ⟨rfl, rfl, rfl⟩
  have hmagnitude : x.magnitude = significandFor num den * 2 ^ shiftFor num den := by
    rw [magnitude, Nat.shiftLeft_eq, hsize]
  have hcast : (x.magnitude : ℚ) = significandFor num den * 2 ^ shiftFor num den := by
    rw [hmagnitude]
    push_cast
    rfl
  have hle := x.shift_le
  refine ⟨rfl, hmagnitude, fun y => ?_, fun y hne htie => ?_, ?_⟩
  · rw [hcast]
    exact (abs_sub_le_magnitude num h y).1
  · rw [hcast] at htie
    rw [hmagnitude] at hne
    exact heven ((abs_sub_le_magnitude num h y).2 hne htie).1
  · refine lt_limit_of_shift_le num h (by omega) fun hlast hsignificand => ?_
    omega

/-- A quotient below the limit is rounded to a number. -/
theorem exists_ofQuotient_eq_finite (negative : Bool) (h : 0 < den)
    (hlt : (num / den : ℚ) < limit) : ∃ x, ofQuotient negative num den = .finite x := by
  rcases exists_parts num negative h with
    ⟨significand, shift, hparts, hsignificand, hge, -, -, hcarry⟩
  rcases shift_le_of_lt_limit num h hlt with ⟨hle, hne⟩
  have hshift : shift ≤ 2045 := by omega
  refine ⟨⟨negative, significand, shift, hsignificand, hshift, hge⟩, ?_⟩
  rw [hparts, ofParts_eq_finite_iff]
  exact ⟨rfl, rfl, rfl⟩

/-- A quotient is rounded to the number that is nearest to it. -/
theorem ofQuotient_eq_finite_iff (h : 0 < den) :
    ofQuotient negative num den = .finite x ↔
      x.negative = negative ∧ NearestSize (num / den) x := by
  constructor
  · intro hx
    rcases nearestSize_of_ofQuotient h hx with ⟨hsign, -, hnearest⟩
    exact ⟨hsign, hnearest⟩
  · rintro ⟨rfl, hnearest⟩
    rcases exists_ofQuotient_eq_finite x.negative h hnearest.lt_limit with ⟨y, hy⟩
    rcases nearestSize_of_ofQuotient h hy with ⟨hsign, hmagnitude, hnearest'⟩
    have htie : |(num / den : ℚ) - x.magnitude| = |(num / den : ℚ) - y.magnitude| :=
      le_antisymm (hnearest.closest y) (hnearest'.closest x)
    have hsame : x.magnitude = y.magnitude := by
      by_contra hne
      have heven := hnearest.even_of_tie y (Ne.symm hne) htie.symm
      have hodd := (abs_sub_le_magnitude num h x).2 (by rwa [← hmagnitude]) (by
        rw [htie, hmagnitude]
        push_cast
        rfl)
      omega
    rw [hy, ext_of_magnitude hsign hsame.symm]

end Extended

end Binary64

end Reshape
