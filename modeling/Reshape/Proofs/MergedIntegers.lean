import Reshape.Proofs.RemovedRepeats
import Reshape.Proofs.SortableItems
import Reshape.Proofs.WideIntegers

/-!
# Comparing integers

Two integers of 64 bits with a sign are compared exactly.  Any other two integers are compared by
their nearest binary64 numbers, which keeps their order but takes some of them for equal.  Then
all six signs go by that, and integers that are taken for equal are repeats of each other where
repeats are removed or items are counted.

Main results:

- Theorem `Json.compare?_integers`: the order of two integers.
- Definition `Sign.relates`: what a sign means for integers.
- Theorem `comparing_integers`: the results of the signs, of removing repeats and of counting.
- Theorem `comparing_integers_inexact`: integers that are taken for equal.
-/

namespace Reshape

namespace Json

section Integers

variable {m n : Int} (hm : (Number.integer m).Valid) (hn : (Number.integer n).Valid)

include hm hn

/-- Unless both have 64 bits with a sign, integers are compared by their nearest numbers. -/
theorem compare?_nearest (h : ¬(isSigned64 m ∧ isSigned64 n)) {x y : Binary64}
    (hx : Binary64.Extended.ofInt m = .finite x) (hy : Binary64.Extended.ofInt n = .finite y) :
    (ofInt m).compare? (ofInt n) = some (compare x.units y.units) := by
  have hxunits : (Number.integer m).quantity.units = x.units :=
    Quantity.units_eq ((Number.toExtended_quantity_integer m).trans hx)
  have hyunits : (Number.integer n).quantity.units = y.units :=
    Quantity.units_eq ((Number.toExtended_quantity_integer n).trans hy)
  have hnearest := Quantity.toExtended_compare? hm.isFinite hn.isFinite
  rw [hxunits, hyunits] at hnearest
  rw [← hnearest, ofInt, ofInt, compare?, Quantity.compare?]
  intro k l hk hl
  simp only [Number.quantity] at hk hl
  split at hk
  next hmsigned =>
    split at hl
    next hnsigned => exact h ⟨hmsigned, hnsigned⟩
    next => cases hl
  next => cases hk

/-- A lesser integer is below a greater one unless they merge. -/
theorem compare?_ofInt_of_lt (hlt : m < n) :
    (ofInt m).compare? (ofInt n) = some (if Merge m n then .eq else .lt) := by
  by_cases hsigned : isSigned64 m ∧ isSigned64 n
  · have hexact : ¬Merge m n := fun hmerge => hmerge.2.1 hsigned
    rw [compare?_ofInt hsigned.1 hsigned.2, if_neg hexact, compare_lt_iff_lt.mpr hlt]
  · have hwide : IsWide64 n := by
      refine hn.wide fun hnsigned => hsigned ⟨?_, hnsigned⟩
      rw [Number.valid_integer_iff] at hm
      rw [isSigned64_iff] at hnsigned ⊢
      omega
    obtain ⟨x, hx⟩ := hm.exists_finite
    obtain ⟨y, hy⟩ := hn.exists_finite
    rw [Number.toExtended_quantity_integer] at hx hy
    rw [compare?_nearest hm hn hsigned hx hy]
    have hle := Binary64.Extended.units_le_of_le hlt.le hx hy
    have hpos : 0 < y.units :=
      lt_of_lt_of_le (by decide +kernel) (Binary64.Extended.le_units_of_wide hwide hy)
    split
    next hmerge =>
      have heq : x = y := Binary64.Extended.finite.inj (hx.symm.trans (hmerge.2.2.trans hy))
      rw [heq, Std.compare_self]
    next hexact =>
      have hne : x.units ≠ y.units := by
        intro hunits
        have heq := Binary64.eq_of_units_eq hpos hunits.symm
        exact hexact ⟨hlt.ne, hsigned, hx.trans (heq ▸ hy.symm)⟩
      rw [compare_lt_iff_lt.mpr (lt_of_le_of_ne hle hne)]

/-- Integers are compared exactly unless they merge. -/
theorem compare?_integers :
    (ofInt m).compare? (ofInt n) = some (if Merge m n then .eq else compare m n) := by
  rcases lt_trichotomy m n with hlt | rfl | hgt
  · rw [compare?_ofInt_of_lt hm hn hlt, compare_lt_iff_lt.mpr hlt]
  · have hself : (ofInt m).equals (ofInt m) := equals_refl hm
    rw [ofInt, equals, Quantity.equals_iff] at hself
    simpa [Merge, ofInt, compare?] using hself
  · rw [compare?_eq_swap (compare?_ofInt_of_lt hn hm hgt), compare_gt_iff_gt.mpr hgt]
    have hsymm : Merge n m ↔ Merge m n := ⟨Merge.symm, Merge.symm⟩
    by_cases hmerge : Merge m n <;> simp [hsymm, hmerge]

/-- Integers are equal when they are the same or merge. -/
theorem equals_integers : (ofInt m).equals (ofInt n) = decide (m = n ∨ Merge m n) := by
  rw [equals_of_compare? (compare?_integers hm hn), Bool.eq_iff_iff, beq_iff_eq,
    decide_eq_true_eq]
  split
  next hmerge => simp [hmerge]
  next hexact => simp [hexact]

end Integers

section Repeats

variable {integers : List Int} (hvalid : ∀ n ∈ integers, (Number.integer n).Valid)

include hvalid

/-- Removing repeats of integers keeps each of them once, and all of them unless some merge. -/
theorem exists_distinct_integers :
    ∃ kept : List Int, kept.Sublist integers ∧ kept.Nodup ∧
      distinct (integers.map ofInt) = kept.map ofInt ∧
      ((∀ n ∈ integers, n ∈ kept) ↔ ∀ m ∈ integers, ∀ n ∈ integers, ¬Merge m n) := by
  obtain ⟨kept, hsub, hkept⟩ := List.sublist_map_iff.mp (distinct_sublist (integers.map ofInt))
  have happart : kept.Pairwise fun m n => ¬(m = n ∨ Merge m n) := by
    have hpairwise := pairwise_distinct (integers.map ofInt)
    rw [hkept, List.pairwise_map] at hpairwise
    refine hpairwise.imp_of_mem fun hm hn hne => ?_
    rw [equals_integers (hvalid _ (hsub.subset hm)) (hvalid _ (hsub.subset hn))] at hne
    exact of_decide_eq_false hne
  have hnodup : kept.Nodup := happart.imp fun h heq => h (.inl heq)
  refine ⟨kept, hsub, hnodup, hkept, ?_, ?_⟩
  · intro hall m hm n hn hmerge
    have hsymm : Std.Symm fun m n => ¬(m = n ∨ Merge m n) :=
      ⟨fun m n h heq => h (heq.imp Eq.symm Merge.symm)⟩
    exact happart.forall (hall m hm) (hall n hn) hmerge.1 (.inr hmerge)
  · intro hnone n hn
    have hmem : ofInt n ∈ integers.map ofInt := List.mem_map_of_mem hn
    rcases mem_distinct_or hmem with hmem | ⟨v, hv, hequals⟩
    · rw [hkept, List.mem_map] at hmem
      obtain ⟨k, hk, heq⟩ := hmem
      cases heq
      exact hk
    · rw [hkept, List.mem_map] at hv
      obtain ⟨k, hk, rfl⟩ := hv
      rw [equals_integers (hvalid k (hsub.subset hk)) (hvalid n hn), decide_eq_true_eq] at hequals
      rcases hequals with rfl | hmerge
      · exact hk
      · exact absurd hmerge (hnone k (hsub.subset hk) n hn)

/-- Counting an integer also counts those that merge with it. -/
theorem countP_integers {n : Int} (hn : (Number.integer n).Valid) :
    (integers.map ofInt).countP (fun item => item.equals (ofInt n)) =
      integers.count n + integers.countP fun m => Merge m n := by
  induction integers with
  | nil => rfl
  | cons m integers ih =>
    rw [List.forall_mem_cons] at hvalid
    rw [List.map_cons, List.countP_cons, ih hvalid.2, equals_integers hvalid.1 hn,
      List.count_cons, List.countP_cons]
    by_cases hsame : m = n
    · simp [hsame, Merge]
      omega
    · simp [hsame]
      omega

end Repeats

end Json

open Json

/-! ## Signs -/

namespace Sign

/-- What a sign means for two integers. -/
def relates : Sign → Int → Int → Bool
  | equal, m, n => m = n
  | unequal, m, n => m ≠ n
  | less, m, n => m < n
  | atMost, m, n => m ≤ n
  | greater, m, n => n < m
  | atLeast, m, n => n ≤ m

/-- A sign accepts the order of two integers when it relates them. -/
theorem accepts_compare (sign : Sign) (m n : Int) :
    sign.accepts (compare m n) = sign.relates m n := by
  rcases lt_trichotomy m n with hlt | rfl | hgt
  · rw [compare_lt_iff_lt.mpr hlt]
    cases sign <;> simp [accepts, relates, hlt, hlt.ne, hlt.le, hlt.not_gt, hlt.not_ge]
  · rw [Std.compare_self]
    cases sign <;> simp [accepts, relates]
  · rw [compare_gt_iff_gt.mpr hgt]
    cases sign <;> simp [accepts, relates, hgt, hgt.ne', hgt.le, hgt.not_gt, hgt.not_ge]

/-- The answer of a sign for two integers. -/
theorem answer_integers (sign : Sign) {m n : Int} (hm : (Number.integer m).Valid)
    (hn : (Number.integer n).Valid) :
    sign.answer (ofInt m) (ofInt n) =
      .bool (if Merge m n then sign.accepts .eq else sign.relates m n) := by
  rw [answer_of_compare? (compare?_integers hm hn)]
  split
  next => rfl
  next => rw [accepts_compare]

end Sign

/-! ## Calls -/

/-- The names of the operations that compare items with one another or with an argument. -/
def comparingNames : Set String :=
  Set.range Sign.name ∪ {"unique", "count"}

section Calls

variable {r : Registry} (hr : Registry.AgreeOn comparingNames .catalog r)

include hr

/-- What removing repeats gives for an array. -/
theorem applyOperation_unique (items : List Json) (location : String) :
    applyOperation r (.array items) "unique" [] location = pure (.array (distinct items)) :=
  applyOperation_unique_of_ne_null (hr.mono (by simp [comparingNames])) (by simp) location

/-- What counting the items gives that are equal to a value other than null. -/
theorem applyOperation_count (items : List Json) {v : Json} (hv : v ≠ .null) (location : String) :
    applyOperation r (.array items) "count" [v] location =
      pure (ofInt (items.countP fun item => item.equals v)) := by
  have hmem : .maybe "count" (.withOne count) ∈ Catalog.entries := by
    simp [Catalog.entries, Catalog.sequences]
  exact hr.applyOperation_withOne hmem (by simp [comparingNames]) (by simp) hv location

/-- A sign gives its answer for two integers. -/
theorem applyOperation_sign_integers (sign : Sign) {m n : Int} (hm : (Number.integer m).Valid)
    (hn : (Number.integer n).Valid) (location : String) :
    applyOperation r (ofInt m) sign.name [ofInt n] location =
      pure (.bool (if Merge m n then sign.accepts .eq else sign.relates m n)) := by
  have hname : sign.name ∈ comparingNames := .inl (Set.mem_range_self sign)
  rw [Sign.applyOperation_sign hr hname (ofInt_ne_null m) (ofInt_ne_null n),
    sign.answer_integers hm hn]

end Calls

/-- Signs compare integers exactly unless they merge, which only happens to integers at most `2048`
away from each other that do not both have 64 bits with a sign.  Then they are taken for equal.
Removing repeats keeps every integer of an array exactly once as long as none of them merge, and
loses one as soon as two of them do.  Counting an integer also counts those that merge with it. -/
theorem comparing_integers {r : Registry} (hr : Registry.AgreeOn comparingNames .catalog r)
    (location : String) :
    (∀ m n, (Number.integer m).Valid → (Number.integer n).Valid →
      (∀ sign : Sign, applyOperation r (ofInt m) sign.name [ofInt n] location =
        pure (.bool (if Merge m n then sign.accepts .eq else sign.relates m n))) ∧
      ((∀ sign : Sign, applyOperation r (ofInt m) sign.name [ofInt n] location =
        pure (.bool (sign.relates m n))) ↔ ¬Merge m n) ∧
      (Merge m n → |m - n| ≤ 2048)) ∧
    ∀ integers : List Int, (∀ n ∈ integers, (Number.integer n).Valid) →
      (∃ kept : List Int, kept.Sublist integers ∧ kept.Nodup ∧
        applyOperation r (.array (integers.map ofInt)) "unique" [] location =
          pure (.array (kept.map ofInt)) ∧
        ((∀ n ∈ integers, n ∈ kept) ↔ ∀ m ∈ integers, ∀ n ∈ integers, ¬Merge m n)) ∧
      ∀ n, (Number.integer n).Valid →
        applyOperation r (.array (integers.map ofInt)) "count" [ofInt n] location =
          pure (ofInt (integers.count n + integers.countP fun m => Merge m n : ℕ)) := by
  refine ⟨fun m n hm hn => ?_, fun integers hvalid => ⟨?_, fun n hn => ?_⟩⟩
  · have hsign := fun sign => applyOperation_sign_integers hr sign hm hn location
    refine ⟨hsign, ⟨?_, ?_⟩, Merge.abs_sub_le hm hn⟩
    · intro hexact hmerge
      have htrue := Run.pure_inj ((hsign .equal).symm.trans (hexact .equal))
      rw [if_pos hmerge, Json.bool.injEq] at htrue
      exact hmerge.1 (of_decide_eq_true htrue.symm)
    · intro hmerge sign
      rw [hsign, if_neg hmerge]
  · obtain ⟨kept, hsub, hnodup, hkept, hall⟩ := exists_distinct_integers hvalid
    exact ⟨kept, hsub, hnodup, by rw [applyOperation_unique hr, hkept], hall⟩
  · rw [applyOperation_count hr _ (ofInt_ne_null n), countP_integers hvalid hn]

/-- The operations of the catalog are also in the standard registry. -/
theorem agreeOn_comparingNames : Registry.AgreeOn comparingNames .catalog .standard := by
  apply Registry.agreeOn_standard
  rintro (hsign | hname)
  · exact Sign.enumFileChange_notMem_range hsign
  · simp at hname

/-- Integers that have the same nearest number, but 64 bits with a sign, and one that needs all 64
bits. -/
def closeIntegers : List Int :=
  [9007199254740993, 9007199254740992, 18446744073709551615]

/-- Integers of 64 bits with a sign are told apart also where their nearest numbers are the
same. -/
theorem comparing_integers_close :
    Registry.AgreeOn comparingNames .catalog .standard ∧
    (∀ n ∈ closeIntegers, (Number.integer n).Valid) ∧
    (∀ sign : Sign, applyOperation .standard (ofInt 9007199254740993) sign.name
      [ofInt 9007199254740992] ".out" =
        pure (.bool (sign.relates 9007199254740993 9007199254740992))) ∧
    (∃ kept : List Int, kept.Sublist closeIntegers ∧ kept.Nodup ∧
      applyOperation .standard (.array (closeIntegers.map ofInt)) "unique" [] ".out" =
        pure (.array (kept.map ofInt)) ∧ ∀ n ∈ closeIntegers, n ∈ kept) ∧
    applyOperation .standard (.array (closeIntegers.map ofInt)) "count"
      [ofInt 9007199254740992] ".out" = pure (ofInt 1) := by
  have hvalid : ∀ n ∈ closeIntegers, (Number.integer n).Valid := by decide
  have hexact : ∀ m ∈ closeIntegers, ∀ n ∈ closeIntegers, ¬Merge m n := by decide +kernel
  obtain ⟨hpairs, harrays⟩ := comparing_integers agreeOn_comparingNames ".out"
  obtain ⟨⟨kept, hsub, hnodup, hunique, hall⟩, hcount⟩ := harrays closeIntegers hvalid
  obtain ⟨-, hsigns, -⟩ := hpairs 9007199254740993 9007199254740992 (by decide) (by decide)
  have hone : closeIntegers.count 9007199254740992 +
      closeIntegers.countP (fun m => Merge m 9007199254740992) = 1 := by decide +kernel
  have hcounted := hcount 9007199254740992 (by decide)
  rw [hone] at hcounted
  exact ⟨agreeOn_comparingNames, hvalid, hsigns.mpr (by decide +kernel),
    ⟨kept, hsub, hnodup, hunique, hall.mpr hexact⟩, hcounted⟩

/-- The integers `9223372036854775808` and `9223372036854775809` are taken for equal, and of
`18446744073709551615` and `18446744073709551614` only the first one is kept. -/
theorem comparing_integers_inexact :
    applyOperation .standard (ofInt 9223372036854775808) "==" [ofInt 9223372036854775809] "" =
      pure (.bool true) ∧
    applyOperation .standard
      (.array ([18446744073709551615, 18446744073709551614].map ofInt)) "unique" [] "" =
        pure (.array ([18446744073709551615].map ofInt)) ∧
    ¬∀ m n, (Number.integer m).Valid → (Number.integer n).Valid → ∀ sign : Sign,
      applyOperation .standard (ofInt m) sign.name [ofInt n] "" =
        pure (.bool (sign.relates m n)) := by
  have hequal : applyOperation .standard (ofInt 9223372036854775808) "=="
      [ofInt 9223372036854775809] "" = pure (.bool true) := by
    have hmerge : Merge 9223372036854775808 9223372036854775809 := by decide +kernel
    have hsign := applyOperation_sign_integers agreeOn_comparingNames .equal
      (m := 9223372036854775808) (n := 9223372036854775809) (by decide) (by decide) ""
    rwa [if_pos hmerge] at hsign
  have hdistinct : distinct ([18446744073709551615, 18446744073709551614].map ofInt) =
      [18446744073709551615].map ofInt := by decide +kernel
  refine ⟨hequal, ?_, fun hexact => ?_⟩
  · rw [applyOperation_unique agreeOn_comparingNames, hdistinct]
  · have hunequal := hexact 9223372036854775808 9223372036854775809 (by decide) (by decide) .equal
    exact absurd (Run.pure_inj (hequal.symm.trans hunequal)) (by decide)

end Reshape
