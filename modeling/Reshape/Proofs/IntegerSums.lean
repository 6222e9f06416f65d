import Mathlib.Algebra.Order.BigOperators.Group.List
import Mathlib.Data.List.Infix
import Reshape.Proofs.IntegerArithmetic

/-!
# Sums of integers

The items of an array are added one after the other, and the sum is exact as long as all sums on the
way have 64 bits with a sign.  The first one that needs more turns the sum into a binary64 number,
and it stays one, whatever the other items are.  It never leaves the range, because adding an
integer of 64 bits does not lead from a number of up to `2 ^ 120` beyond it.

So whether a sum that fits is exact depends on the order of the items.  There is always an order in
which it is, and it is exact in every order only when the positive items have a sum of 64 bits, and
the negative items, too.

Main results:

- Definition `SumsFit`: all sums on the way have 64 bits with a sign.
- Theorem `IsRunningSum.add`: what one more item makes of the sum so far.
- Theorem `exists_perm_sumsFit`: an order in which a sum is exact.
- Theorem `forall_perm_sumsFit_iff`: when every order is like this.
- Theorem `integer_sums`: what the sum of an array of integers is.
- Theorem `integer_sums_order`: the same items with different sums.
-/

namespace Reshape

/-! ## Sums on the way -/

/-- Every sum of the first items has 64 bits with a sign. -/
def SumsFit (ns : List Int) : Prop :=
  ∀ front ∈ ns.inits, isSigned64 front.sum

instance (ns : List Int) : Decidable (SumsFit ns) :=
  inferInstanceAs (Decidable (∀ front ∈ ns.inits, _))

/-- The sums of the first items include the sum of all items. -/
theorem SumsFit.sum {ns : List Int} (h : SumsFit ns) : isSigned64 ns.sum :=
  h ns ((List.mem_inits ns ns).mpr List.prefix_rfl)

/-- One more item adds one more sum. -/
theorem sumsFit_concat {ns : List Int} {n : Int} :
    SumsFit (ns ++ [n]) ↔ SumsFit ns ∧ isSigned64 (ns.sum + n) := by
  have hsum : (ns ++ [n]).sum = ns.sum + n := by rw [List.sum_append, List.sum_singleton]
  simp only [SumsFit, List.mem_inits, List.prefix_concat_iff, forall_eq_or_imp, hsum]
  exact and_comm

/-! ## Orders of the items -/

/-- Some of the items have a sum between those of the negative and of the positive items. -/
theorem sum_bounds {front ns : List Int} (h : front.Sublist ns) :
    (ns.filter (· < 0)).sum ≤ front.sum ∧ front.sum ≤ (ns.filter (0 < ·)).sum := by
  induction h with
  | slnil => simp
  | cons n h ih | cons_cons n h ih =>
    simp only [List.filter_cons, decide_eq_true_eq, apply_ite List.sum, List.sum_cons]
    omega

/-- What lies between two integers of 64 bits with a sign has 64 bits. -/
theorem isSigned64_of_le {low n high : Int} (hlow : isSigned64 low) (hhigh : isSigned64 high)
    (h : low ≤ n) (h' : n ≤ high) : isSigned64 n := by
  rw [isSigned64_iff] at *
  omega

/-- All orders of the items are exact when the positive items alone have a sum of 64 bits with a
sign, and the negative items, too.  Otherwise these items come first in one of them. -/
theorem forall_perm_sumsFit_iff (ns : List Int) :
    (∀ ms, ms.Perm ns → SumsFit ms) ↔
      isSigned64 (ns.filter (0 < ·)).sum ∧ isSigned64 (ns.filter (· < 0)).sum := by
  constructor
  · intro hall
    have hfirst : ∀ p : Int → Bool, isSigned64 (ns.filter p).sum := fun p =>
      hall _ (List.filter_append_perm p ns) _
        ((List.mem_inits _ _).mpr (List.prefix_append _ _))
    exact ⟨hfirst _, hfirst _⟩
  · rintro ⟨hpositive, hnegative⟩ ms hperm front hfront
    obtain ⟨hlow, hhigh⟩ := sum_bounds ((List.mem_inits _ _).mp hfront).sublist
    rw [(hperm.filter _).sum_eq] at hlow hhigh
    exact isSigned64_of_le hnegative hpositive hlow hhigh

/-- One of the items can be taken away without leaving the integers of 64 bits with a sign. -/
theorem exists_mem_isSigned64_sub {ns : List Int} (hne : ns ≠ [])
    (hns : ∀ n ∈ ns, isSigned64 n) (h : isSigned64 ns.sum) :
    ∃ n ∈ ns, isSigned64 (ns.sum - n) := by
  -- Taking away an item with the sign of the sum brings it nearer to zero or past it.
  by_cases hsum : 0 ≤ ns.sum
  · obtain ⟨n, hmem, hn⟩ := List.exists_le_of_sum_le hne (fun _ => 0) id
      (by simpa using hsum)
    refine ⟨n, hmem, ?_⟩
    have hitem := isSigned64_iff.mp (hns n hmem)
    rw [isSigned64_iff] at h ⊢
    rw [id] at hn
    omega
  · obtain ⟨n, hmem, hn⟩ := List.exists_lt_of_sum_lt (l := ns) id (fun _ => 0)
      (by simpa using hsum)
    refine ⟨n, hmem, ?_⟩
    have hitem := isSigned64_iff.mp (hns n hmem)
    rw [isSigned64_iff] at h ⊢
    rw [id] at hn
    omega

/-- Items whose sum has 64 bits with a sign have an order in which it is exact. -/
theorem exists_perm_sumsFit {ns : List Int} (hns : ∀ n ∈ ns, isSigned64 n)
    (h : isSigned64 ns.sum) : ∃ ms, ms.Perm ns ∧ SumsFit ms := by
  induction hlength : ns.length generalizing ns with
  | zero =>
    rw [List.length_eq_zero_iff.mp hlength]
    exact ⟨[], .refl _, by decide⟩
  | succ length ih =>
    have hne : ns ≠ [] := List.ne_nil_of_length_eq_add_one hlength
    obtain ⟨n, hmem, hrest⟩ := exists_mem_isSigned64_sub hne hns h
    have hsum : (ns.erase n).sum = ns.sum - n := by
      rw [← List.sum_erase hmem]
      ring
    obtain ⟨ms, hperm, hfits⟩ := ih (fun m hm => hns m (List.mem_of_mem_erase hm))
      (hsum ▸ hrest) (by rw [List.length_erase_of_mem hmem, hlength]; rfl)
    refine ⟨ms ++ [n], ?_, sumsFit_concat.mpr ⟨hfits, ?_⟩⟩
    · exact (List.perm_append_singleton n ms).trans
        ((hperm.cons n).trans (List.perm_cons_erase hmem).symm)
    · rwa [hperm.sum_eq, hsum, sub_add_cancel]

/-! ## Numbers that do not grow -/

namespace Binary64

/-- A value that is not far beyond `2 ^ 120` is rounded to this number. -/
theorem IsNearest.abs_value_le_of_le {v : ℚ} {x : Binary64} (h : IsNearest v x)
    (hv : |v| ≤ 2 ^ 120 + 2 ^ 64) : |x.value| ≤ 2 ^ 120 := by
  obtain ⟨hlow, hhigh⟩ := abs_le.mp hv
  -- The integers a little further out have the same nearest numbers.
  obtain ⟨y, hy, hnearest⟩ := (Extended.isRounded_ofInt (2 ^ 120 + 2 ^ 65)).exists_finite_of_le
    (by norm_num)
  obtain ⟨z, hz, hnearest'⟩ := (Extended.isRounded_ofInt (-(2 ^ 120 + 2 ^ 65))).exists_finite_of_le
    (by norm_num)
  have hyvalue : nearestInt (2 ^ 120 + 2 ^ 65) = 2 ^ 120 := rfl
  have hzvalue : nearestInt (-(2 ^ 120 + 2 ^ 65)) = -2 ^ 120 := rfl
  have hxy := h.value_le_of_lt hnearest (by push_cast; linarith)
  have hzx := hnearest'.value_le_of_lt h (by push_cast; linarith)
  rw [value_of_ofInt hy, hyvalue] at hxy
  rw [value_of_ofInt hz, hzvalue] at hzx
  push_cast at hxy hzx
  exact abs_le.mpr ⟨hzx, hxy⟩

/-- The sum of a number of up to 120 bits and one of 64 bits is a number of up to 120 bits. -/
theorem exists_add_of_le {x y : Binary64} (hx : |x.value| ≤ 2 ^ 120) (hy : |y.value| ≤ 2 ^ 64) :
    ∃ z, (Extended.finite x).add (.finite y) = .finite z ∧ |z.value| ≤ 2 ^ 120 := by
  have hsum : |x.value + y.value| ≤ 2 ^ 120 + 2 ^ 64 :=
    (abs_add_le _ _).trans (add_le_add hx hy)
  obtain ⟨z, hz, hnearest⟩ :=
    (Extended.isRounded_add x y).exists_finite_of_le (hsum.trans (by norm_num))
  exact ⟨z, hz, hnearest.abs_value_le_of_le hsum⟩

end Binary64

/-! ## The sum so far -/

/-- What the sum of some items is: exact when all sums on the way have 64 bits with a sign, and
otherwise a number of up to 120 bits. -/
inductive IsRunningSum (ns : List Int) : Quantity → Prop
  | exact (h : SumsFit ns) : IsRunningSum ns (.exact ns.sum)
  | real (h : ¬SumsFit ns) {x : Binary64} (hx : |x.value| ≤ 2 ^ 120) :
    IsRunningSum ns (.real (.finite x))

/-- One more item is added to the sum so far. -/
theorem IsRunningSum.add {ns : List Int} {total : Quantity} (h : IsRunningSum ns total) {n : Int}
    (hn : isSigned64 n) : IsRunningSum (ns ++ [n]) (total.add (.exact n)) := by
  obtain ⟨y, hy, -, hysize⟩ := Binary64.exists_nearest_of_isSigned64 hn
  cases h with
  | exact hfits =>
    by_cases hsum : isSigned64 (ns.sum + n)
    · have htotal : (ns ++ [n]).sum = ns.sum + n := by rw [List.sum_append, List.sum_singleton]
      rw [Quantity.add, Quantity.combine_exact hsum, ← htotal]
      exact .exact (sumsFit_concat.mpr ⟨hfits, hsum⟩)
    · obtain ⟨x, hx, -, hxsize⟩ := Binary64.exists_nearest_of_isSigned64 hfits.sum
      obtain ⟨z, hz, hzsize⟩ :=
        Binary64.exists_add_of_le (hxsize.trans (by norm_num)) hysize
      rw [Quantity.add, Quantity.combine, if_neg hsum, hx, hy, hz]
      exact .real (fun h => hsum (sumsFit_concat.mp h).2) hzsize
  | @real hfits x hx =>
    obtain ⟨z, hz, hzsize⟩ := Binary64.exists_add_of_le hx hysize
    have hadd : Quantity.add (.real (.finite x)) (.exact n) = .real (.finite z) := by
      rw [← hz, ← hy]
      rfl
    rw [hadd]
    exact .real (fun h => hfits (sumsFit_concat.mp h).1) hzsize

/-- All items are added up. -/
theorem isRunningSum_foldl {ns : List Int} (hns : ∀ n ∈ ns, isSigned64 n) :
    IsRunningSum ns (ns.foldl (fun total n => total.add (.exact n)) (.exact 0)) := by
  induction ns using List.reverseRecOn with
  | nil => exact .exact (by decide)
  | append_singleton ns n ih =>
    rw [List.forall_mem_append, List.forall_mem_singleton] at hns
    rw [List.foldl_concat]
    exact (ih hns.1).add hns.2

open Json

/-- The sum of integers is the sum of all of them. -/
theorem exists_sum?_map_ofInt {ns : List Int} (hns : ∀ n ∈ ns, isSigned64 n) :
    ∃ total, IsRunningSum ns total ∧ sum? (ns.map ofInt) = some (ofQuantity total) := by
  have hfold : ∀ start, ns.foldlM (fun (total : Quantity) n => (ofInt n).quantity?.map total.add)
      start = some (ns.foldl (fun total n => total.add (.exact n)) start) := by
    induction ns with
    | nil => exact fun start => rfl
    | cons n ns ih =>
      rw [List.forall_mem_cons] at hns
      intro start
      rw [List.foldlM_cons, quantity?_ofInt hns.1, List.foldl_cons]
      exact ih hns.2 (start.add (.exact n))
  refine ⟨_, isRunningSum_foldl hns, ?_⟩
  rw [sum?, List.foldlM_map, hfold, Option.map_some]

/-! ## Calls -/

/-- The operations of the catalog are also in the standard registry. -/
theorem agreeOn_sum : Registry.AgreeOn {"sum"} .catalog .standard := by
  apply Registry.agreeOn_standard
  simp

section Calls

variable {r : Registry} (hr : Registry.AgreeOn {"sum"} .catalog r)

include hr

/-- The sum of integers is exact when all sums on the way have 64 bits with a sign, and otherwise a
number that is no integer. -/
theorem applyOperation_sum {ns : List Int} (hns : ∀ n ∈ ns, isSigned64 n) (location : String) :
    (SumsFit ns →
      applyOperation r (.array (ns.map ofInt)) "sum" [] location = pure (ofInt ns.sum)) ∧
    (¬SumsFit ns → ∃ x,
      applyOperation r (.array (ns.map ofInt)) "sum" [] location = pure (.number (.float x))) := by
  have hmem : .maybe "sum" (.alone (ofItems sum?)) ∈ Catalog.entries := by
    simp [Catalog.entries, Catalog.sequences]
  obtain ⟨total, hrunning, hsum⟩ := exists_sum?_map_ofInt hns
  rw [hr.applyOperation_alone hmem rfl (by simp), ofItems, hsum, Option.getD_some]
  cases hrunning with
  | exact hfits => exact ⟨fun _ => rfl, fun hnot => absurd hfits hnot⟩
  | @real hnot x => exact ⟨fun hfits => absurd hfits hnot, fun _ => ⟨x, rfl⟩⟩

/-- So the sum is an integer only when it is the exact one. -/
theorem applyOperation_sum_eq_iff {ns : List Int} (hns : ∀ n ∈ ns, isSigned64 n)
    (location : String) (k : Int) :
    applyOperation r (.array (ns.map ofInt)) "sum" [] location = pure (ofInt k) ↔
      k = ns.sum ∧ SumsFit ns := by
  obtain ⟨hexact, hfloat⟩ := applyOperation_sum hr hns location
  constructor
  · intro hk
    by_cases hfits : SumsFit ns
    · have hsame := Run.pure_inj (hk.symm.trans (hexact hfits))
      exact ⟨Number.integer.inj (Json.number.inj hsame), hfits⟩
    · obtain ⟨x, hx⟩ := hfloat hfits
      exact absurd (Run.pure_inj (hk.symm.trans hx)) nofun
  · rintro ⟨rfl, hfits⟩
    exact hexact hfits

/-- The sum of integers is exact when all sums on the way have 64 bits with a sign, and only then.
Otherwise it is a number that is no integer, so it is never another integer.  Integers whose sum has
64 bits have an exact sum in some order.  They have it in every order, and so the same sum in every
order, only when the positive items alone have a sum of 64 bits, and the negative items, too. -/
theorem integer_sums {ns : List Int} (hns : ∀ n ∈ ns, isSigned64 n) (location : String) :
    let sum ms := applyOperation r (.array (ms.map ofInt)) "sum" [] location
    (sum ns = pure (ofInt ns.sum) ↔ SumsFit ns) ∧
    (∀ k, sum ns = pure (ofInt k) → k = ns.sum) ∧
    (¬SumsFit ns → ∃ x, sum ns = pure (.number (.float x))) ∧
    (isSigned64 ns.sum →
      (∃ ms, ms.Perm ns ∧ sum ms = pure (ofInt ns.sum)) ∧
      ((∀ ms, ms.Perm ns → sum ms = pure (ofInt ns.sum)) ↔
        isSigned64 (ns.filter (0 < ·)).sum ∧ isSigned64 (ns.filter (· < 0)).sum) ∧
      ((∀ ms, ms.Perm ns → sum ms = sum ns) ↔
        isSigned64 (ns.filter (0 < ·)).sum ∧ isSigned64 (ns.filter (· < 0)).sum)) := by
  intro sum
  have hsum : ∀ ms, ms.Perm ns → (sum ms = pure (ofInt ns.sum) ↔ SumsFit ms) := by
    intro ms hperm
    rw [applyOperation_sum_eq_iff hr (fun n hn => hns n (hperm.subset hn)), hperm.sum_eq,
      and_iff_right rfl]
  have hall : (∀ ms, ms.Perm ns → sum ms = pure (ofInt ns.sum)) ↔
      isSigned64 (ns.filter (0 < ·)).sum ∧ isSigned64 (ns.filter (· < 0)).sum := by
    rw [← forall_perm_sumsFit_iff]
    exact forall₂_congr hsum
  refine ⟨hsum ns (.refl ns), fun k hk => ((applyOperation_sum_eq_iff hr hns location k).mp hk).1,
    (applyOperation_sum hr hns location).2, fun hfits => ?_⟩
  obtain ⟨ms, hperm, hms⟩ := exists_perm_sumsFit hns hfits
  refine ⟨⟨ms, hperm, (hsum ms hperm).mpr hms⟩, hall, ?_⟩
  rw [← hall]
  constructor
  · intro hsame ks hks
    rw [hsame ks hks, ← hsame ms hperm]
    exact (hsum ms hperm).mpr hms
  · intro hexact ks hks
    rw [hexact ks hks, hexact ns (.refl ns)]

end Calls

/-- The greatest integer of 64 bits with a sign, minus one and one have an exact sum in this order,
but not in every order. -/
theorem integer_sums_greatest :
    Registry.AgreeOn {"sum"} .catalog .standard ∧
    (∀ n ∈ [9223372036854775807, -1, 1], isSigned64 n) ∧
    applyOperation .standard (.array ([9223372036854775807, -1, 1].map ofInt)) "sum" [] ".out" =
      pure (ofInt 9223372036854775807) ∧
    isSigned64 [9223372036854775807, -1, 1].sum ∧
    ¬∀ ms : List Int, ms.Perm [9223372036854775807, -1, 1] →
      applyOperation .standard (.array (ms.map ofInt)) "sum" [] ".out" =
        pure (ofInt 9223372036854775807) := by
  have hns : ∀ n ∈ [9223372036854775807, -1, 1], isSigned64 n := by decide
  have hfits : isSigned64 [9223372036854775807, -1, 1].sum := by decide
  obtain ⟨hexact, -, -, horders⟩ := integer_sums agreeOn_sum hns ".out"
  obtain ⟨-, hall, -⟩ := horders hfits
  exact ⟨agreeOn_sum, hns, hexact.mpr (by decide), hfits, fun h => absurd (hall.mp h) (by decide)⟩

/-- With one before minus one the sum is not exact, although it has 64 bits with a sign. -/
theorem integer_sums_order :
    (∃ x, applyOperation .standard (.array ([9223372036854775807, 1, -1].map ofInt)) "sum" [] "" =
      pure (.number (.float x))) ∧
    ¬∀ ns : List Int, (∀ n ∈ ns, isSigned64 n) → isSigned64 ns.sum →
      applyOperation .standard (.array (ns.map ofInt)) "sum" [] "" = pure (ofInt ns.sum) := by
  have hns : ∀ n ∈ [9223372036854775807, 1, -1], isSigned64 n := by decide
  obtain ⟨x, hx⟩ := (applyOperation_sum agreeOn_sum hns "").2 (by decide)
  refine ⟨⟨x, hx⟩, fun hexact => ?_⟩
  have hinteger := hexact _ hns (by decide)
  exact absurd (Run.pure_inj (hx.symm.trans hinteger)) nofun

end Reshape
