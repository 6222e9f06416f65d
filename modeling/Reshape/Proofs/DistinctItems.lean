import Mathlib.Data.List.Induction
import Mathlib.Data.List.Pairwise
import Reshape.Catalog.Sequence

/-!
# Items without repeats

Items are gone through from the first to the last, and an item is kept unless one that has been
kept before is equal to it.

Main results:

- Theorem `Json.distinct_concat`: what becomes of the last item.
- Theorem `Json.distinct_sublist`: the items that are kept stay in order.
- Theorem `Json.pairwise_distinct`: no two of them are equal.
- Theorem `Json.mem_distinct_or`: an item is kept, or one that is equal to it.
-/

namespace Reshape

namespace Json

/-- The last item is kept unless one that has been kept is equal to it. -/
theorem distinct_concat (front : List Json) (item : Json) :
    distinct (front ++ [item]) =
      if (distinct front).any fun earlier => earlier.equals item then distinct front
      else distinct front ++ [item] := by
  rw [distinct, List.foldl_append]
  rfl

/-- The items that are kept stay in order. -/
theorem distinct_sublist (items : List Json) : (distinct items).Sublist items := by
  induction items using List.reverseRecOn with
  | nil => exact .slnil
  | append_singleton front item ih =>
    rw [distinct_concat]
    split
    · exact ih.trans (List.sublist_append_left front [item])
    · exact ih.append (.refl [item])

/-- No two items that are kept are equal. -/
theorem pairwise_distinct (items : List Json) :
    (distinct items).Pairwise fun x y => x.equals y = false := by
  induction items using List.reverseRecOn with
  | nil => exact .nil
  | append_singleton front item ih =>
    rw [distinct_concat]
    split
    next => exact ih
    next hnew =>
      rw [Bool.not_eq_true, List.any_eq_false] at hnew
      refine List.pairwise_append.mpr ⟨ih, List.pairwise_singleton _ _, fun x hx y hy => ?_⟩
      rw [List.mem_singleton.mp hy]
      exact Bool.not_eq_true _ ▸ hnew x hx

/-- An item is kept unless one that is kept is equal to it. -/
theorem mem_distinct_or {items : List Json} {item : Json} (h : item ∈ items) :
    item ∈ distinct items ∨ ∃ kept ∈ distinct items, kept.equals item := by
  induction items using List.reverseRecOn with
  | nil => cases h
  | append_singleton front last ih =>
    rw [distinct_concat]
    rcases List.mem_append.mp h with hfront | hlast
    · have hkept := ih hfront
      split
      next => exact hkept
      next =>
        rcases hkept with hmem | ⟨kept, hmem, hequals⟩
        · exact .inl (List.mem_append_left _ hmem)
        · exact .inr ⟨kept, List.mem_append_left _ hmem, hequals⟩
    · obtain rfl := List.mem_singleton.mp hlast
      split
      next hold => exact .inr (List.any_eq_true.mp hold)
      next => exact .inl (List.mem_append_right _ (List.mem_singleton_self item))

end Json

end Reshape
