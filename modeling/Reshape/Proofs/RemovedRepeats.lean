import Mathlib.Data.List.Induction
import Reshape.Proofs.CatalogCalls
import Reshape.Proofs.DistinctItems
import Reshape.Proofs.ValueOrder

/-!
# Removing repeats

An item of an array is a repeat when one that has been kept before is equal to it by meaning, so
integers and other numbers, also inside of items, may be repeats of each other.  Exactly the repeats
are removed.  Which items are kept is told by their places among all items: equal items may stand at
several places, and only the first of them stays.

Equality is no equivalence, but it is reflexive and symmetric, and more is not needed: an item
stands for itself when it is kept, and what is kept is compared with all that has been kept before.

Main results:

- Structure `Json.KeepsFirsts`: the items that are no repeats, with their places.
- Theorem `Json.exists_keepsFirsts`: these are the items that are kept.
- Theorem `Json.distinct_eq_self`: items without repeats stay as they are.
- Theorem `unique_removes_repeats`: the results of removing repeats.
-/

namespace Reshape

namespace Json

/-! ## Items that are kept -/

/-- Some items, each with its place among all of them: the first one and, of the others, those that
no item kept before is equal to. -/
structure KeepsFirsts (items : List Json) (kept : List (Json × Nat)) : Prop where
  sublist : kept.Sublist items.zipIdx
  head?_eq : kept.head? = items.zipIdx.head?
  apart : kept.Pairwise fun x y => x.1.equals y.1 = false ∧ y.1.equals x.1 = false
  covers : ∀ x ∈ items.zipIdx, ∃ y ∈ kept, y.2 ≤ x.2 ∧ x.1.equals y.1
  notMem_iff : ∀ x ∈ items.zipIdx, x ∉ kept ↔ ∃ y ∈ kept, y.2 < x.2 ∧ y.1.equals x.1

section Kept

variable {items : List Json} {kept : List (Json × Nat)}

/-- An item among all of them stands at a place of its own. -/
theorem lt_of_mem_zipIdx {x : Json × Nat} (h : x ∈ items.zipIdx) : x.2 < items.length := by
  simpa using List.snd_lt_of_mem_zipIdx h

/-- One more item stands behind all others. -/
theorem zipIdx_concat (items : List Json) (item : Json) :
    (items ++ [item]).zipIdx = items.zipIdx ++ [(item, items.length)] := by
  simp [List.zipIdx_append]

namespace KeepsFirsts

variable (h : KeepsFirsts items kept)

include h

/-- Items that are kept stand before the end. -/
theorem lt_length {x : Json × Nat} (hx : x ∈ kept) : x.2 < items.length :=
  lt_of_mem_zipIdx (h.sublist.subset hx)

/-- One more item that is a repeat. -/
theorem concat_repeat {item : Json} {earlier : Json × Nat} (hmem : earlier ∈ kept)
    (hequals : earlier.1.equals item) (hsymm : item.equals earlier.1) :
    KeepsFirsts (items ++ [item]) kept := by
  have hlt := h.lt_length hmem
  have hlast : (item, items.length) ∉ kept := fun hlast => (h.lt_length hlast).false
  constructor
  · rw [zipIdx_concat]
    exact h.sublist.trans (List.sublist_append_left _ _)
  · obtain ⟨first, hfirst⟩ := Option.isSome_iff_exists.mp
      (List.isSome_head?.mpr (List.ne_nil_of_mem hmem))
    rw [zipIdx_concat, List.head?_append, ← h.head?_eq, hfirst, Option.some_or]
  · exact h.apart
  · rw [zipIdx_concat, List.forall_mem_append, List.forall_mem_singleton]
    exact ⟨h.covers, earlier, hmem, hlt.le, hsymm⟩
  · rw [zipIdx_concat, List.forall_mem_append, List.forall_mem_singleton]
    exact ⟨h.notMem_iff, iff_of_true hlast ⟨earlier, hmem, hlt, hequals⟩⟩

/-- One more item that is no repeat. -/
theorem concat_new {item : Json}
    (hnew : ∀ x ∈ kept, x.1.equals item = false ∧ item.equals x.1 = false)
    (hself : item.equals item) :
    KeepsFirsts (items ++ [item]) (kept ++ [(item, items.length)]) := by
  constructor
  · rw [zipIdx_concat]
    exact h.sublist.append (.refl _)
  · rw [zipIdx_concat, List.head?_append, List.head?_append, h.head?_eq]
  · refine List.pairwise_append.mpr ⟨h.apart, List.pairwise_singleton _ _, ?_⟩
    simpa using hnew
  · rw [zipIdx_concat, List.forall_mem_append, List.forall_mem_singleton]
    constructor
    · intro x hx
      obtain ⟨y, hy, hcovers⟩ := h.covers x hx
      exact ⟨y, List.mem_append_left _ hy, hcovers⟩
    · exact ⟨_, List.mem_append_right _ (List.mem_singleton_self _), le_rfl, hself⟩
  · rw [zipIdx_concat, List.forall_mem_append, List.forall_mem_singleton]
    constructor
    · intro x hx
      -- An item in front of the new one has nothing to do with it.
      have hlt := lt_of_mem_zipIdx hx
      have hne : x ≠ (item, items.length) := by
        rintro rfl
        exact hlt.false
      simpa [hne, hlt.not_gt, or_and_right, exists_or] using h.notMem_iff x hx
    · refine iff_of_false (fun hnot => hnot (by simp)) ?_
      rintro ⟨y, hy, hlt, hequals⟩
      rcases List.mem_append.mp hy with hy | hy
      · rw [(hnew y hy).1] at hequals
        cases hequals
      · rw [List.mem_singleton.mp hy] at hlt
        exact hlt.false

end KeepsFirsts

/-- The items that are kept are those that are no repeats. -/
theorem exists_keepsFirsts (hvalid : ∀ item ∈ items, item.Valid) :
    ∃ kept, KeepsFirsts items kept ∧ distinct items = kept.map Prod.fst := by
  induction items using List.reverseRecOn with
  | nil => exact ⟨[], ⟨.slnil, rfl, .nil, by simp, by simp⟩, rfl⟩
  | append_singleton front item ih =>
    have hitem : item.Valid := hvalid item (by simp)
    obtain ⟨kept, hkept, heq⟩ := ih fun other hother => hvalid other (by simp [hother])
    have hothers : ∀ x ∈ kept, x.1.Valid := fun x hx =>
      hvalid x.1 (List.mem_append_left _ (List.fst_mem_of_mem_zipIdx (hkept.sublist.subset hx)))
    rw [distinct_concat]
    split
    next hold =>
      obtain ⟨earlier, hearlier, hequals⟩ := List.any_eq_true.mp hold
      rw [heq, List.mem_map] at hearlier
      obtain ⟨x, hx, rfl⟩ := hearlier
      exact ⟨kept, hkept.concat_repeat hx hequals (equals_symm (hothers x hx) hitem hequals), heq⟩
    next hnew =>
      refine ⟨kept ++ [(item, front.length)], hkept.concat_new ?_ (equals_refl hitem), ?_⟩
      · rw [Bool.not_eq_true, List.any_eq_false, heq, List.forall_mem_map] at hnew
        intro x hx
        refine ⟨Bool.not_eq_true _ ▸ hnew x hx, Bool.not_eq_true _ ▸ fun hsymm => ?_⟩
        exact hnew x hx (equals_symm hitem (hothers x hx) hsymm)
      · rw [heq, List.map_append, List.map_singleton]

end Kept

/-- Items without repeats stay as they are. -/
theorem distinct_eq_self {items : List Json}
    (h : items.Pairwise fun x y => x.equals y = false) : distinct items = items := by
  induction items using List.reverseRecOn with
  | nil => rfl
  | append_singleton front item ih =>
    obtain ⟨hfront, -, hlast⟩ := List.pairwise_append.mp h
    rw [distinct_concat, ih hfront, if_neg]
    rw [Bool.not_eq_true, List.any_eq_false]
    intro earlier hearlier
    rw [hlast earlier hearlier item (List.mem_singleton_self item)]
    nofun

/-- The characters of a string are strings, which are valid values. -/
theorem valid_characters (s : String) : (array (characters s)).Valid := by
  rw [characters]
  induction s.toList with
  | nil => trivial
  | cons c cs ih => exact ⟨trivial, ih⟩

end Json

open Json

/-! ## Calls -/

section Calls

variable {r : Registry} (hr : Registry.AgreeOn {"unique"} .catalog r)

include hr

/-- The operation `unique` removes repeats from every value other than null. -/
theorem applyOperation_unique_of_ne_null {v : Json} (hv : v ≠ .null) (location : String) :
    applyOperation r v "unique" [] location = pure (unique v) := by
  have hmem : .maybe "unique" (.alone unique) ∈ Catalog.entries := by
    simp [Catalog.entries, Catalog.sequences]
  exact hr.applyOperation_alone hmem rfl hv location

/-- Removing repeats from an array keeps exactly the items that no item kept before is equal to: the
first item and others in their order, no two of them equal, and for each item one that is equal to
it and stands no later.  Removing repeats once more changes nothing.  From a string it removes
repeats among its characters. -/
theorem unique_removes_repeats (location : String) :
    (∀ items, (Json.array items).Valid → ∃ kept, KeepsFirsts items kept ∧
      applyOperation r (.array items) "unique" [] location =
        pure (.array (kept.map Prod.fst)) ∧
      applyOperation r (.array (kept.map Prod.fst)) "unique" [] location =
        pure (.array (kept.map Prod.fst))) ∧
    ∀ s, (Json.array (characters s)).Valid ∧
      applyOperation r (.string s) "unique" [] location =
        applyOperation r (.array (characters s)) "unique" [] location := by
  have harray : ∀ items, applyOperation r (.array items) "unique" [] location =
      pure (.array (distinct items)) := fun items =>
    applyOperation_unique_of_ne_null hr (by simp) location
  constructor
  · intro items hvalid
    obtain ⟨kept, hkept, heq⟩ := exists_keepsFirsts fun item => valid_of_mem_items hvalid
    refine ⟨kept, hkept, ?_, ?_⟩
    · rw [harray, heq]
    · rw [harray, ← heq, distinct_eq_self (pairwise_distinct items)]
  · intro s
    refine ⟨valid_characters s, ?_⟩
    rw [harray]
    exact applyOperation_unique_of_ne_null hr (by simp) location

end Calls

/-- An array and an object, with numbers that stand as integers first and as others then, and
null twice. -/
def rowsWithRepeats : List Json :=
  [.array [ofInt 1, .null], .object [("a", ofInt 2)], .array [ofExtended (.ofInt 1), .null], .null,
    .object [("a", ofExtended (.ofInt 2))], .null]

/-- The array, the object and null are kept as they stand first. -/
theorem unique_removes_repeats_rows :
    Registry.AgreeOn {"unique"} .catalog .standard ∧ (Json.array rowsWithRepeats).Valid ∧
    ∃ kept, KeepsFirsts rowsWithRepeats kept ∧
      kept.map Prod.fst = [.array [ofInt 1, .null], .object [("a", ofInt 2)], .null] ∧
      applyOperation .standard (.array rowsWithRepeats) "unique" [] ".out" =
        pure (.array (kept.map Prod.fst)) ∧
      applyOperation .standard (.array (kept.map Prod.fst)) "unique" [] ".out" =
        pure (.array (kept.map Prod.fst)) := by
  have hr : Registry.AgreeOn {"unique"} .catalog .standard := Registry.agreeOn_standard (by simp)
  have hvalid : (Json.array rowsWithRepeats).Valid := by decide +kernel
  have hdistinct : unique (.array rowsWithRepeats) =
      .array [.array [ofInt 1, .null], .object [("a", ofInt 2)], .null] := by decide +kernel
  obtain ⟨kept, hkept, hrun, hagain⟩ := (unique_removes_repeats hr ".out").1 _ hvalid
  refine ⟨hr, hvalid, kept, hkept, ?_, hrun, hagain⟩
  have hunique := applyOperation_unique_of_ne_null hr (v := .array rowsWithRepeats) (by simp) ".out"
  rw [hrun, hdistinct] at hunique
  exact Json.array.inj (Run.pure_inj hunique)

end Reshape
