import Mathlib.Data.List.Chain
import Mathlib.Data.List.Pairwise
import Mathlib.Data.List.Rotate
import Reshape.Proofs.CatalogCalls
import Reshape.Proofs.ValueOrder

/-!
# Items that cannot be compared

Sorting an array and the search for its greatest or least item give null when two items meet
that cannot be compared.  None of them compares each two items.  Sorting compares neighbours,
and the search compares each item with the best one before it, so an item is only linked to
one item before it.

When comparability is transitive among the items, linked items can all be compared with one
another, so all three operations give null for the same arrays, whatever the order of the
items is.  It is transitive as long as no item is an array.  Arrays are compared up to the
first items that differ, and one array may be comparable with two others that are not.

Main results:

- Definition `Json.Comparable`: two values that can be compared.
- Theorem `Json.compare?_swap`: the order of two values the other way round.
- Definition `Json.Linked`: each item can be compared with one before it.
- Definition `Arrangement.Meets`: the pairs of items that an operation compares.
- Theorem `Arrangement.run?_eq_none_iff`: an operation gives up for one of these pairs.
- Theorem `Arrangement.refuses_alike`: the arrays for which the operations give null.
-/

namespace Reshape

/-! ## Numbers -/

namespace Binary64.Extended

/-- Integers are rounded to a number or to an infinity. -/
theorem ofInt_ne_nan (n : Int) : ofInt n ≠ nan := by
  intro h
  have hrounded := isRounded_ofInt n
  rw [h] at hrounded
  cases hrounded

/-- Numbers and infinities can be compared. -/
theorem isSome_compare? {x y : Binary64.Extended} (hx : x ≠ nan) (hy : y ≠ nan) :
    (x.compare? y).isSome := by
  cases x <;> cases y <;> first | rfl | contradiction

end Binary64.Extended

/-- The quantity of a number is not indeterminate. -/
theorem Number.toExtended_quantity_ne_nan (n : Number) : n.quantity.toExtended ≠ .nan := by
  cases n with
  | integer value =>
    rw [toExtended_quantity_integer]
    exact Binary64.Extended.ofInt_ne_nan value
  | float x => nofun

/-- Any two numbers can be compared. -/
theorem Number.isSome_compare? (m n : Number) : (m.quantity.compare? n.quantity).isSome := by
  have hreal := Binary64.Extended.isSome_compare? m.toExtended_quantity_ne_nan
    n.toExtended_quantity_ne_nan
  unfold Quantity.compare?
  split
  · rfl
  · exact hreal

namespace Json

/-! ## The order the other way round -/

/-- The order of truth values the other way round. -/
theorem compareBool_swap (p q : Bool) : compareBool q p = (compareBool p q).swap := by
  cases p <;> cases q <;> rfl

/-- The order of items the other way round, when it is known for each item. -/
theorem compareItems?_swap {xs : List Json}
    (h : ∀ x ∈ xs, ∀ y : Json, y.compare? x = (x.compare? y).map Ordering.swap)
    (ys : List Json) : compareItems? ys xs = (compareItems? xs ys).map Ordering.swap := by
  induction xs generalizing ys with
  | nil => cases ys <;> rfl
  | cons x xs ih =>
    rw [List.forall_mem_cons] at h
    cases ys with
    | nil => rfl
    | cons y ys =>
      rw [compareItems?, compareItems?, h.1 y]
      cases x.compare? y with
      | none => rfl
      | some order =>
        cases order with
        | eq => exact ih h.2 ys
        | lt | gt => rfl

/-- The order of two values the other way round. -/
theorem compare?_swap (a b : Json) : b.compare? a = (a.compare? b).map Ordering.swap := by
  induction a using Json.kinds_induction generalizing b with
  | null => cases b <;> rfl
  | object => cases b <;> rfl
  | bool p =>
    cases b with
    | bool q => exact congrArg some (compareBool_swap p q)
    | null | number | string | array | object => rfl
  | number m =>
    cases b with
    | number n => exact m.quantity.compare?_swap n.quantity
    | null | bool | string | array | object => rfl
  | string s =>
    cases b with
    | string t => exact congrArg some Std.OrientedOrd.eq_swap
    | null | bool | number | array | object => rfl
  | array xs ih =>
    cases b with
    | array ys => exact compareItems?_swap (fun x hx y => ih x hx y) ys
    | null | bool | number | string | object => rfl

/-! ## Comparable values -/

/-- Two values can be compared. -/
def Comparable (a b : Json) : Prop :=
  (a.compare? b).isSome

instance (a b : Json) : Decidable (Comparable a b) :=
  inferInstanceAs (Decidable (_ = true))

/-- Values can be compared either way round. -/
theorem Comparable.symm {a b : Json} (h : a.Comparable b) : b.Comparable a := by
  rw [Comparable, compare?_swap a b, Option.isSome_map]
  exact h

instance : Std.Symm Comparable :=
  ⟨fun _ _ => Comparable.symm⟩

/-- Null cannot be compared. -/
theorem Comparable.ne_null {a b : Json} (h : a.Comparable b) : a ≠ null := by
  rintro rfl
  simp [Comparable, compare?] at h

/-- Two values can be compared when both can be compared with a third one that is no array. -/
theorem Comparable.trans {a b c : Json} (hb : ∀ xs, b ≠ array xs) (hab : a.Comparable b)
    (hbc : b.Comparable c) : a.Comparable c := by
  cases b with
  | null => exact absurd rfl hbc.ne_null
  | array xs => exact absurd rfl (hb xs)
  | object => simp [Comparable, compare?] at hbc
  | bool q =>
    cases a <;> cases c <;> simp_all [Comparable, compare?]
  | string t =>
    cases a <;> cases c <;> simp_all [Comparable, compare?]
  | number n =>
    cases a <;> cases c <;> simp_all [Comparable, compare?, Number.isSome_compare?]

/-- Two items at different places cannot be compared. -/
def HasIncomparable (items : List Json) : Prop :=
  ∃ i j, ∃ (hi : i < items.length) (hj : j < items.length), i ≠ j ∧ ¬items[i].Comparable items[j]

/-- Of three items two can be compared when both can be compared with the third one. -/
def ComparesTransitively (items : List Json) : Prop :=
  ∀ a b c, [a, b, c].Subperm items → a.Comparable b → b.Comparable c → a.Comparable c

section Items

variable {items items' : List Json}

/-- Unless two items cannot be compared, each item can be compared with all behind it. -/
theorem hasIncomparable_iff : HasIncomparable items ↔ ¬items.Pairwise Comparable := by
  rw [List.pairwise_iff_getElem]
  constructor
  · rintro ⟨i, j, hi, hj, hne, hnot⟩ h
    rcases lt_or_gt_of_ne hne with hlt | hgt
    · exact hnot (h i j hi hj hlt)
    · exact hnot (h j i hj hi hgt).symm
  · intro h
    push Not at h
    obtain ⟨i, j, hi, hj, hlt, hnot⟩ := h
    exact ⟨i, j, hi, hj, hlt.ne, hnot⟩

/-- Whether two items cannot be compared does not depend on the order of the items. -/
theorem hasIncomparable_perm (h : items.Perm items') :
    HasIncomparable items ↔ HasIncomparable items' := by
  rw [hasIncomparable_iff, hasIncomparable_iff, h.pairwise_iff Comparable.symm]

/-- Transitivity is handed down to fewer items. -/
theorem ComparesTransitively.mono (h : ComparesTransitively items)
    (hsubperm : items'.Subperm items) : ComparesTransitively items' :=
  fun a b c hthree => h a b c (hthree.trans hsubperm)

/-- Comparability is transitive among items none of which is an array. -/
theorem comparesTransitively_of_no_arrays (h : ∀ xs, array xs ∉ items) :
    ComparesTransitively items := by
  intro a b c hthree hab hbc
  have hne : ∀ xs, b ≠ array xs := by
    rintro xs rfl
    exact h xs (hthree.subset (by simp))
  exact hab.trans hne hbc

end Items

/-! ## Linked items -/

/-- Each item but the first can be compared with one before it. -/
inductive Linked : List Json → Prop
  | single (item : Json) : Linked [item]
  | concat {front : List Json} {item earlier : Json} (h : Linked front) (hmem : earlier ∈ front)
      (hcomparable : item.Comparable earlier) : Linked (front ++ [item])

/-- Where comparability is transitive, linked items can all be compared. -/
theorem Linked.pairwise {items : List Json} (h : Linked items)
    (htrans : ComparesTransitively items) : items.Pairwise Comparable := by
  induction h with
  | single item => exact List.pairwise_singleton _ _
  | @concat front item earlier hlinked hmem hcomparable ih =>
    have hfront := ih (htrans.mono (List.sublist_append_left front [item]).subperm)
    have hlast : ∀ other ∈ front, other.Comparable item := by
      intro other hother
      by_cases heq : other = earlier
      · exact heq ▸ hcomparable.symm
      · have hearlier : other.Comparable earlier := hfront.forall hother hmem heq
        have htwo : [other, earlier].Subperm front :=
          List.subperm_of_subset (by simp [heq]) (by simp [hother, hmem])
        have hthree := (List.subperm_append_right [item]).mpr htwo
        exact htrans other earlier item hthree hearlier hcomparable.symm
    exact List.pairwise_append.mpr ⟨hfront, List.pairwise_singleton _ _, by simpa using hlast⟩

/-! ## Neighbours -/

/-- Each item can be compared with the next one. -/
theorem neighboursComparable_iff {items : List Json} :
    neighboursComparable items ↔ items.IsChain Comparable := by
  induction items with
  | nil => simp [neighboursComparable]
  | cons item rest ih =>
    cases rest with
    | nil => simp [neighboursComparable]
    | cons next back =>
      rw [neighboursComparable, Bool.and_eq_true, ih, List.isChain_cons_cons]
      rfl

/-- Items that can be compared with the next ones are linked. -/
theorem linked_of_isChain {items : List Json} (hne : items ≠ [])
    (h : items.IsChain Comparable) : Linked items := by
  induction items using List.reverseRecOn with
  | nil => contradiction
  | append_singleton front item ih =>
    by_cases hfront : front = []
    · subst hfront
      exact .single item
    · rw [List.isChain_append] at h
      have hcomparable := h.2.2 _ (List.getLast_mem_getLast? hfront) item rfl
      exact (ih hfront h.1).concat (List.getLast_mem hfront) hcomparable.symm

/-! ## The best item -/

/-- The better one of the best item so far and the next item. -/
def better? (wanted : Ordering) (best item : Json) : Option Json :=
  (item.compare? best).map fun order => if order = wanted then item else best

section Best

variable {wanted : Ordering} {front items : List Json} {item best : Json}

/-- The better item is one of the two, which can be compared. -/
theorem comparable_of_better? {result : Json} (h : better? wanted best item = some result) :
    item.Comparable best ∧ (result = item ∨ result = best) := by
  obtain ⟨order, horder, rfl⟩ := Option.map_eq_some_iff.mp h
  refine ⟨Option.isSome_iff_exists.mpr ⟨order, horder⟩, ?_⟩
  split
  · exact .inl rfl
  · exact .inr rfl

/-- There is no better item when the two cannot be compared. -/
theorem better?_eq_none_iff : better? wanted best item = none ↔ ¬item.Comparable best := by
  simp [better?, Comparable]

/-- The search goes on with the best item so far. -/
theorem extreme?_append (hne : front ≠ []) (back : List Json) :
    extreme? wanted (front ++ back) =
      (extreme? wanted front).bind fun best => back.foldlM (better? wanted) best := by
  cases front with
  | nil => contradiction
  | cons first front => exact List.foldlM_append

/-- The search ends with the last item. -/
theorem extreme?_concat (hne : front ≠ []) (item : Json) :
    extreme? wanted (front ++ [item]) =
      (extreme? wanted front).bind fun best => better? wanted best item := by
  simp [extreme?_append hne]

/-- Where the search finds an item, the items are linked, and the item is one of them. -/
theorem linked_of_extreme? (h : extreme? wanted items = some best) :
    Linked items ∧ best ∈ items := by
  induction items using List.reverseRecOn generalizing best with
  | nil => cases h
  | append_singleton front item ih =>
    by_cases hfront : front = []
    · subst hfront
      cases h
      exact ⟨.single item, List.mem_singleton_self item⟩
    · rw [extreme?_concat hfront] at h
      obtain ⟨earlier, hearlier, hbetter⟩ := Option.bind_eq_some_iff.mp h
      obtain ⟨hlinked, hmem⟩ := ih hearlier
      obtain ⟨hcomparable, hbest⟩ := comparable_of_better? hbetter
      refine ⟨hlinked.concat hmem hcomparable, ?_⟩
      rcases hbest with rfl | rfl
      · exact List.mem_append_right front (List.mem_singleton_self best)
      · exact List.mem_append_left [item] hmem

/-- The search gives up when an item cannot be compared with the best one before it. -/
theorem extreme?_eq_none_iff (hne : items ≠ []) :
    extreme? wanted items = none ↔
      ∃ front item back best, items = front ++ item :: back ∧
        extreme? wanted front = some best ∧ ¬item.Comparable best := by
  constructor
  · intro h
    induction items using List.reverseRecOn with
    | nil => contradiction
    | append_singleton front item ih =>
      by_cases hfront : front = []
      · subst hfront
        cases h
      · rw [extreme?_concat hfront] at h
        cases hbest : extreme? wanted front with
        | none =>
          obtain ⟨start, other, back, best, heq, hothers⟩ := ih hfront hbest
          exact ⟨start, other, back ++ [item], best, by simp [heq], hothers⟩
        | some best =>
          rw [hbest, Option.bind_some, better?_eq_none_iff] at h
          exact ⟨front, item, [], best, rfl, hbest, h⟩
  · rintro ⟨front, item, back, best, rfl, hbest, hnot⟩
    have hfront : front ≠ [] := by
      rintro rfl
      cases hbest
    rw [extreme?_append hfront, hbest, Option.bind_some, List.foldlM_cons,
      better?_eq_none_iff.mpr hnot]
    rfl

/-- What the search finds among several items is not null. -/
theorem extreme?_ne_null (hlength : 2 ≤ items.length) : extreme? wanted items ≠ some null := by
  intro h
  obtain rfl | ⟨front, item, rfl⟩ := List.eq_nil_or_concat' items
  · contradiction
  · have hfront : front ≠ [] := by
      rintro rfl
      simp at hlength
    rw [extreme?_concat hfront] at h
    obtain ⟨best, -, hbetter⟩ := Option.bind_eq_some_iff.mp h
    obtain ⟨hcomparable, hnull | hnull⟩ := comparable_of_better? hbetter
    · exact hcomparable.ne_null hnull.symm
    · exact hcomparable.symm.ne_null hnull.symm

end Best

end Json

open Json

/-! ## Operations -/

/-- The operations that compare the items of an array with one another. -/
inductive Arrangement
  | sorted
  | extreme (greatest : Bool)

namespace Arrangement

/-- The name of an operation. -/
def name : Arrangement → String
  | sorted => "sorted"
  | extreme greatest => if greatest then "max" else "min"

/-- How a better item stands to the best one before it. -/
def wanted (greatest : Bool) : Ordering :=
  if greatest then .gt else .lt

/-- What an operation finds, if it does not give up. -/
def run? : Arrangement → List Json → Option Json
  | sorted, items => (array items).sorted?
  | extreme greatest, items => extreme? (wanted greatest) items

/-- The pairs of items that an operation compares as long as it does not give up: neighbours,
or an item with the best one before it. -/
inductive Meets : Arrangement → List Json → Json → Json → Prop
  | neighbours (front : List Json) (item next : Json) (back : List Json) :
      Meets sorted (front ++ item :: next :: back) item next
  | best {greatest : Bool} {front : List Json} {best : Json}
      (h : extreme? (wanted greatest) front = some best) (item : Json) (back : List Json) :
      Meets (extreme greatest) (front ++ item :: back) item best

section Pairs

variable {a : Arrangement} {items : List Json}

/-- Items that meet stand at different places, so they can be compared when any two items
can. -/
theorem Meets.comparable {x y : Json} (h : a.Meets items x y)
    (hpairwise : items.Pairwise Comparable) : x.Comparable y := by
  cases h with
  | neighbours front item next back =>
    have hback := (List.pairwise_append.mp hpairwise).2.1
    exact (List.pairwise_cons.mp hback).1 y List.mem_cons_self
  | best h item back =>
    have hbest := (linked_of_extreme? h).2
    exact ((List.pairwise_append.mp hpairwise).2.2 y hbest x List.mem_cons_self).symm

/-- Sorting gives up unless neighbours can be compared. -/
theorem sorted?_eq_none_iff : (array items).sorted? = none ↔ ¬items.IsChain Comparable := by
  rw [← neighboursComparable_iff]
  simp [sorted?]

/-- An operation gives up when two items meet that cannot be compared. -/
theorem run?_eq_none_iff (hne : items ≠ []) :
    a.run? items = none ↔ ∃ x y, a.Meets items x y ∧ ¬x.Comparable y := by
  cases a with
  | sorted =>
    rw [run?, sorted?_eq_none_iff, List.isChain_iff_forall_rel_of_append_cons_cons]
    push Not
    constructor
    · rintro ⟨x, y, front, back, rfl, hnot⟩
      exact ⟨x, y, .neighbours front x y back, hnot⟩
    · rintro ⟨x, y, hmeets, hnot⟩
      cases hmeets with
      | neighbours front item next back => exact ⟨x, y, front, back, rfl, hnot⟩
  | extreme greatest =>
    rw [run?, extreme?_eq_none_iff hne]
    constructor
    · rintro ⟨front, item, back, best, rfl, hbest, hnot⟩
      exact ⟨item, best, .best hbest item back, hnot⟩
    · rintro ⟨x, y, hmeets, hnot⟩
      cases hmeets with
      | best hbest item back => exact ⟨_, x, back, y, rfl, hbest, hnot⟩

/-- Items are linked when an operation does not give up. -/
theorem linked_of_run? (hne : items ≠ []) (h : a.run? items ≠ none) : Linked items := by
  cases a with
  | sorted => exact linked_of_isChain hne (not_not.mp (mt sorted?_eq_none_iff.mpr h))
  | extreme greatest =>
    obtain ⟨best, hbest⟩ := Option.ne_none_iff_exists'.mp h
    exact (linked_of_extreme? hbest).1

/-- When an operation gives up, two items cannot be compared. -/
theorem hasIncomparable_of_run? (hne : items ≠ []) (h : a.run? items = none) :
    HasIncomparable items := by
  obtain ⟨x, y, hmeets, hnot⟩ := (run?_eq_none_iff hne).mp h
  exact hasIncomparable_iff.mpr fun hpairwise => hnot (hmeets.comparable hpairwise)

/-- Where comparability is transitive, an operation gives up exactly when two items cannot be
compared. -/
theorem run?_eq_none_iff_hasIncomparable (hne : items ≠ []) (h : ComparesTransitively items) :
    a.run? items = none ↔ HasIncomparable items := by
  constructor
  · exact hasIncomparable_of_run? hne
  · intro hincomparable
    by_contra hsome
    exact hasIncomparable_iff.mp hincomparable ((linked_of_run? hne hsome).pairwise h)

/-- What an operation finds among several items is not null. -/
theorem run?_ne_null (hlength : 2 ≤ items.length) : a.run? items ≠ some .null := by
  cases a with
  | sorted => simp [run?, sorted?]
  | extreme greatest => exact extreme?_ne_null hlength

end Pairs

/-! ## Refusals -/

/-- The entry of an operation in the catalog. -/
def entry : Arrangement → Catalog.Entry
  | sorted => .maybe "sorted" (.alone fun v => v.sorted?.getD .null)
  | extreme greatest =>
    .maybe (extreme greatest).name (.alone (ofItems (extreme? (wanted greatest))))

/-- The entries of the operations are in the catalog. -/
theorem entry_mem (a : Arrangement) : a.entry ∈ Catalog.entries := by
  unfold Catalog.entries Catalog.sequences
  cases a with
  | sorted => simp [entry]
  | extreme greatest => cases greatest <;> simp [entry, name, wanted]

/-- An operation gives null for an array. -/
def Refuses (r : Registry) (a : Arrangement) (items : List Json) (location : String) : Prop :=
  applyOperation r (.array items) a.name [] location = pure .null

section Refusals

variable {r : Registry} (hr : Registry.AgreeOn (Set.range name) .catalog r)

include hr

/-- The operations of the catalog give what they find, and null when they give up. -/
theorem applyOperation_array (a : Arrangement) (items : List Json) (location : String) :
    applyOperation r (.array items) a.name [] location = pure ((a.run? items).getD .null) := by
  have hname : a.entry.name = a.name := by cases a <;> rfl
  have hrun : a.entry.body.run (.array items) [] = .ok ((a.run? items).getD .null) := by
    cases a <;> rfl
  have hmem : a.entry.name ∈ Set.range name := hname ▸ Set.mem_range_self a
  rw [← hname, hr.applyOperation_of_ne_null a.entry_mem hmem (by simp) (by simp) hrun]

/-- An operation gives null for several items when it gives up. -/
theorem refuses_iff {a : Arrangement} {items : List Json} (hlength : 2 ≤ items.length)
    {location : String} : Refuses r a items location ↔ a.run? items = none := by
  rw [Refuses, applyOperation_array hr]
  constructor
  · intro h
    have hnull := Run.pure_inj h
    cases hrun : a.run? items with
    | none => rfl
    | some result =>
      rw [hrun, Option.getD_some] at hnull
      exact absurd (hnull ▸ hrun) (run?_ne_null hlength)
  · intro h
    rw [h, Option.getD_none]

/-- Where comparability is transitive, an operation gives null for several items exactly when
two of them cannot be compared. -/
theorem refuses_iff_hasIncomparable {a : Arrangement} {items : List Json}
    (hlength : 2 ≤ items.length) (h : ComparesTransitively items) {location : String} :
    Refuses r a items location ↔ HasIncomparable items := by
  have hne : items ≠ [] := by
    rintro rfl
    contradiction
  rw [refuses_iff hr hlength, run?_eq_none_iff_hasIncomparable hne h]

/-- Where sorting three items gives null exactly when two of them cannot be compared,
comparability is transitive. -/
theorem comparesTransitively_of_refuses {items : List Json} {location : String}
    (h : ∀ items', items'.Subperm items → 2 ≤ items'.length →
      (Refuses r sorted items' location ↔ HasIncomparable items')) :
    ComparesTransitively items := by
  intro a b c hthree hab hbc
  have hlength : 2 ≤ [a, b, c].length := by simp
  have hsome : ¬Refuses r sorted [a, b, c] location := by
    rw [refuses_iff hr hlength, run?, sorted?_eq_none_iff]
    -- The first and the last item do not meet.
    simp [hab, hbc]
  rw [h _ hthree hlength, hasIncomparable_iff, not_not] at hsome
  exact (List.pairwise_cons.mp hsome).1 c (by simp)

/-- Sorting an array of several items and the search for its greatest or least one always give
a value.  It is null when two items meet that cannot be compared, so it is never null when any
two items can.  When comparability is transitive, it is null exactly when two items cannot be
compared, whatever the order of the items is.  This holds of every choice of several of the
items only when comparability is transitive, as it is when no item is an array. -/
theorem refuses_alike {items : List Json} (hlength : 2 ≤ items.length) (location : String) :
    (∀ a : Arrangement,
      (∃ result, applyOperation r (.array items) a.name [] location = pure result) ∧
      (Refuses r a items location ↔ ∃ x y, a.Meets items x y ∧ ¬x.Comparable y) ∧
      (Refuses r a items location → HasIncomparable items) ∧
      (ComparesTransitively items → ∀ items', items'.Perm items →
        (Refuses r a items' location ↔ HasIncomparable items))) ∧
    (ComparesTransitively items ↔ ∀ items', items'.Subperm items → 2 ≤ items'.length →
      ∀ a, Refuses r a items' location ↔ HasIncomparable items') ∧
    ((∀ xs, .array xs ∉ items) → ComparesTransitively items) := by
  have hne : items ≠ [] := by
    rintro rfl
    contradiction
  refine ⟨fun a => ⟨⟨_, applyOperation_array hr a items location⟩, ?_, ?_, ?_⟩, ?_,
    comparesTransitively_of_no_arrays⟩
  · rw [refuses_iff hr hlength, run?_eq_none_iff hne]
  · rw [refuses_iff hr hlength]
    exact hasIncomparable_of_run? hne
  · intro htrans items' hperm
    rw [← hasIncomparable_perm hperm]
    exact refuses_iff_hasIncomparable hr (hperm.length_eq ▸ hlength) (htrans.mono hperm.subperm)
  · constructor
    · intro htrans items' hsubperm hlength' a
      exact refuses_iff_hasIncomparable hr hlength' (htrans.mono hsubperm)
    · intro h
      exact comparesTransitively_of_refuses hr fun items' hsubperm hlength' =>
        h items' hsubperm hlength' sorted

end Refusals

/-- The operations of the catalog are also in the standard registry. -/
theorem agreeOn_standard : Registry.AgreeOn (Set.range name) .catalog .standard := by
  apply Registry.agreeOn_standard
  rintro ⟨a, hname⟩
  cases a with
  | sorted => exact absurd hname (by decide)
  | extreme greatest => cases greatest <;> exact absurd hname (by decide)

/-- A string among numbers cannot be compared with its neighbours. -/
theorem refuses_alike_letter :
    Registry.AgreeOn (Set.range name) .catalog .standard ∧
    2 ≤ [Json.number (.integer 2), .string "m", .number (.integer 1)].length ∧
    ∀ a, Refuses .standard a [.number (.integer 2), .string "m", .number (.integer 1)] ".out" := by
  have hlength : 2 ≤ [Json.number (.integer 2), .string "m", .number (.integer 1)].length := by
    decide
  obtain ⟨hrefuses, -, htrans⟩ := refuses_alike agreeOn_standard hlength ".out"
  refine ⟨agreeOn_standard, hlength, fun a => ?_⟩
  have hincomparable :
      HasIncomparable [.number (.integer 2), .string "m", .number (.integer 1)] :=
    ⟨0, 1, by decide, by decide, by decide, by decide⟩
  exact ((hrefuses a).2.2.2 (htrans (by simp)) _ (.refl _)).mpr hincomparable

/-- The rows `[1,"a"]` and `[1,5]` cannot be compared, but each of them can be compared with
the row `[2,0]`. -/
def rows : List Json :=
  [.array [.number (.integer 1), .string "a"],
   .array [.number (.integer 2), .number (.integer 0)],
   .array [.number (.integer 1), .number (.integer 5)]]

/-- With the row `[2,0]` between the other two all neighbours can be compared, and it is the
greatest.  So only the search for the least row gives null, and sorting gives null when the
rows are in another order. -/
theorem not_refuses_alike_rows :
    (¬∀ (items : List Json) (location : String), 2 ≤ items.length →
      ∀ a, Refuses .standard a items location ↔ HasIncomparable items) ∧
    ¬∀ (items items' : List Json) (location : String), 2 ≤ items.length → items.Perm items' →
      ∀ a, Refuses .standard a items location ↔ Refuses .standard a items' location := by
  have hlength : 2 ≤ rows.length := by decide
  have hsome : ¬Refuses .standard sorted rows "" := by
    rw [refuses_iff agreeOn_standard hlength]
    decide +kernel
  constructor
  · intro h
    have hincomparable : HasIncomparable rows :=
      ⟨0, 2, by decide, by decide, by decide, by decide +kernel⟩
    exact hsome ((h rows "" hlength sorted).mpr hincomparable)
  · intro h
    have hperm : rows.Perm (rows.rotate 1) := (List.rotate_perm rows 1).symm
    have hnone : Refuses .standard sorted (rows.rotate 1) "" := by
      rw [refuses_iff agreeOn_standard (by decide)]
      decide +kernel
    exact hsome ((h rows (rows.rotate 1) "" hlength hperm sorted).mpr hnone)

end Arrangement

end Reshape
