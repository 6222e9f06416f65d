import Mathlib.Data.List.Perm.Basic
import Reshape.Proofs.SortableItems

/-!
# Sorting is stable

Sorting puts one item after another into its place: behind every item that is not greater, so
equal items keep their order.  The search for the greatest or the least item keeps the first one
of those that are equal.  Among items that can be put in order, sorting and both searches go by
one order: the least item is the first one of the sorted items, and the greatest item is the
first one that is equal to the last one of the sorted items.

Main results:

- Theorem `Json.exists_sortItems_concat`: the place at which sorting puts the last item.
- Structure `Json.IsStableSort`: what it means that items have been sorted.
- Theorem `Json.isStableSort_sortItems`: what `Json.sortItems` gives has been sorted.
- Theorem `Json.sortItems_of_pairwise`: what has been sorted stays as it is.
- Theorem `Json.exists_of_extreme?`: a search finds the first one of the best items.
- Theorem `sorting_agrees_with_searches`: the operations, in every registry that has them.
-/

namespace Reshape

namespace Json

/-! ## One step -/

/-- Inserting goes past the greater items at the front and no further. -/
theorem exists_insertDescending (item : Json) (others : List Json) :
    ∃ high low, others = high ++ low ∧ insertDescending item others = high ++ item :: low ∧
      (∀ other ∈ high, item.compare? other = some .lt) ∧
      ∀ other ∈ low.head?, item.compare? other ≠ some .lt := by
  induction others with
  | nil => exact ⟨[], [], rfl, rfl, nofun, nofun⟩
  | cons other others ih =>
    rw [insertDescending]
    split
    next hlt =>
      obtain ⟨high, low, rfl, hinsert, hhigh, hlow⟩ := ih
      exact ⟨other :: high, low, rfl, congrArg (other :: ·) hinsert,
        List.forall_mem_cons.mpr ⟨hlt, hhigh⟩, hlow⟩
    next hne => exact ⟨[], other :: others, rfl, rfl, nofun, by simpa using hne⟩

/-- Sorting puts the last item in front of the greater ones at the end of the others. -/
theorem exists_sortItems_concat (front : List Json) (item : Json) :
    ∃ low high, sortItems front = low ++ high ∧ sortItems (front ++ [item]) = low ++ item :: high ∧
      (∀ other ∈ high, item.compare? other = some .lt) ∧
      ∀ other ∈ low.getLast?, item.compare? other ≠ some .lt := by
  obtain ⟨high, low, hfront, hinsert, hhigh, hlow⟩ :=
    exists_insertDescending item (sortItems front).reverse
  refine ⟨low.reverse, high.reverse, ?_, ?_, by simpa using hhigh, by simpa using hlow⟩
  · rw [← List.reverse_append, ← hfront, List.reverse_reverse]
  · have hconcat : sortItems (front ++ [item]) =
        (insertDescending item (sortItems front).reverse).reverse := by simp [sortItems]
    rw [hconcat, hinsert]
    simp

/-! ## Sorted items -/

/-- Sorting gives the same items in another order. -/
theorem sortItems_perm (items : List Json) : (sortItems items).Perm items := by
  induction items using List.reverseRecOn with
  | nil => exact .refl _
  | append_singleton front item ih =>
    obtain ⟨low, high, hfront, hresult, -, -⟩ := exists_sortItems_concat front item
    rw [hfront] at ih
    rw [hresult]
    exact List.perm_middle.trans ((ih.cons item).trans (List.perm_append_singleton item front).symm)

/-- Sorting keeps the order of items none of which is below another. -/
theorem filter_sortItems {p : Json → Bool} {items : List Json}
    (h : ∀ x ∈ items, ∀ y ∈ items, p x → p y → x.compare? y ≠ some .lt) :
    (sortItems items).filter p = items.filter p := by
  induction items using List.reverseRecOn with
  | nil => rfl
  | append_singleton front item ih =>
    obtain ⟨low, high, hfront, hresult, hhigh, -⟩ := exists_sortItems_concat front item
    have hkeep := ih fun x hx y hy =>
      h x (List.mem_append_left _ hx) y (List.mem_append_left _ hy)
    have hmem : ∀ other ∈ high, other ∈ front := fun other hother =>
      (sortItems_perm front).subset (hfront ▸ List.mem_append_right low hother)
    rw [hresult, List.filter_append, List.filter_cons, List.filter_append, ← hkeep, hfront,
      List.filter_append]
    cases hitem : p item with
    | false => simp [hitem]
    | true =>
      -- Nothing that is kept stands behind the item.
      have hnone : high.filter p = [] := by
        rw [List.filter_eq_nil_iff]
        intro other hother hp
        exact h item (by simp) other (List.mem_append_left _ (hmem other hother)) hitem hp
          (hhigh other hother)
      simp [hitem, hnone]

/-- The last one of items that ascend is not below any of them. -/
theorem last_not_lt {start : List Json} {last : Json} (h : (start ++ [last]).Pairwise AtMost) :
    ∀ item ∈ start ++ [last], last.compare? item ≠ some .lt := by
  intro item hitem hlt
  rcases List.mem_append.mp hitem with hstart | hlast
  · exact not_atMost_of_lt hlt ((List.pairwise_append.mp h).2.2 item hstart last (by simp))
  · rw [List.mem_singleton.mp hlast] at hlt
    exact compare?_ne_of_better (by decide) hlt hlt

/-- Items that can be put in order ascend when they have been sorted. -/
theorem pairwise_sortItems {items : List Json} (h : Sortable items) :
    (sortItems items).Pairwise AtMost := by
  induction items using List.reverseRecOn with
  | nil => exact .nil
  | append_singleton front item ih =>
    obtain ⟨low, high, hfront, hresult, hhigh, hlow⟩ := exists_sortItems_concat front item
    have hascending := ih h.of_append
    rw [hfront, List.pairwise_append] at hascending
    obtain ⟨hlowAscending, hhighAscending, hacross⟩ := hascending
    have hmem : ∀ other ∈ low, other ∈ front := fun other hother =>
      (sortItems_perm front).subset (hfront ▸ List.mem_append_left high hother)
    have hbelow : ∀ other ∈ low, other.AtMost item := by
      intro other hother
      have hcomparable : other.Comparable item :=
        (List.pairwise_append.mp h.comparable).2.2 other (hmem other hother) item (by simp)
      refine hcomparable.atMost_of_ne fun hlt => ?_
      -- The last one of the lower items would stand above the item or below the other one.
      obtain ⟨start, last, rfl⟩ := List.eq_nil_or_concat' low |>.resolve_left
        (List.ne_nil_of_mem hother)
      have hlastMem := List.mem_append_left [item] (hmem last (by simp))
      have hotherMem := List.mem_append_left [item] (hmem other hother)
      rcases h.lt_or_lt (by simp) hlastMem hotherMem hlt with habove | hunder
      · exact hlow last (by simp) habove
      · exact last_not_lt hlowAscending other hother hunder
    rw [hresult, List.pairwise_append, List.pairwise_cons]
    refine ⟨hlowAscending, ⟨fun other hother => atMost_of_lt (hhigh other hother),
      hhighAscending⟩, ?_⟩
    intro other hother
    exact List.forall_mem_cons.mpr ⟨hbelow other hother, hacross other hother⟩

/-- Items that ascend stay as they are. -/
theorem sortItems_of_pairwise {items : List Json} (h : items.Pairwise AtMost) :
    sortItems items = items := by
  induction items using List.reverseRecOn with
  | nil => rfl
  | append_singleton front item ih =>
    obtain ⟨hfrontAscending, -, hitem⟩ := List.pairwise_append.mp h
    obtain ⟨low, high, hfront, hresult, hhigh, -⟩ := exists_sortItems_concat front item
    rw [ih hfrontAscending] at hfront
    cases high with
    | nil => rw [hresult, hfront, List.append_nil]
    | cons other high =>
      have hle := hitem other (by simp [hfront]) item (by simp)
      exact absurd hle (not_atMost_of_lt (hhigh other List.mem_cons_self))

/-- The items have been sorted: they are the same, none of them is greater than a later one, and
those that are equal have kept their order. -/
structure IsStableSort (items result : List Json) : Prop where
  perm : result.Perm items
  ascending : result.Pairwise AtMost
  stable : ∀ item ∈ items, result.filter item.equals = items.filter item.equals

/-- An item that is less or greater is not equal. -/
theorem equals_eq_false {a b : Json} {order : Ordering} (h : a.compare? b = some order)
    (hne : order ≠ .eq) : a.equals b = false := by
  rw [equals_of_compare? h]
  exact beq_eq_false_iff_ne.mpr hne

/-- Items that can be put in order have been sorted by sorting. -/
theorem isStableSort_sortItems {items : List Json} (h : Sortable items) :
    IsStableSort items (sortItems items) where
  perm := sortItems_perm items
  ascending := pairwise_sortItems h
  stable item hitem := filter_sortItems fun x hx y hy hequalsX hequalsY hlt => by
    -- The item that both are equal to would stand above the one or below the other.
    rcases h.lt_or_lt hx hitem hy hlt with hbelow | habove
    · have hne := equals_eq_false (compare?_eq_swap hbelow) (by decide)
      exact Bool.false_ne_true (hne.symm.trans hequalsX)
    · exact Bool.false_ne_true ((equals_eq_false habove (by decide)).symm.trans hequalsY)

/-! ## The first of the best items -/

/-- An item is better than all before it, and none behind it is better. -/
def IsFirstBest (wanted : Ordering) (items : List Json) (best : Json) : Prop :=
  ∃ front back, items = front ++ best :: back ∧ (∀ x ∈ front, best.compare? x = some wanted) ∧
    ∀ x ∈ back, x.compare? best ≠ some wanted

section Best

variable {wanted : Ordering} {items result : List Json} {best item x : Json}

/-- No item is better than the first of the best ones. -/
theorem IsFirstBest.not_better (hwanted : wanted ≠ .eq) (h : IsFirstBest wanted items best) :
    ∀ x ∈ items, x.compare? best ≠ some wanted := by
  obtain ⟨front, back, rfl, hfront, hback⟩ := h
  have hself : best.compare? best ≠ some wanted := fun heq => compare?_ne_of_better hwanted heq heq
  exact List.forall_mem_append.mpr ⟨fun x hx => compare?_ne_of_better hwanted (hfront x hx),
    List.forall_mem_cons.mpr ⟨hself, hback⟩⟩

/-- The first of the best items is one of them. -/
theorem IsFirstBest.mem (h : IsFirstBest wanted items best) : best ∈ items := by
  obtain ⟨front, back, rfl, -, -⟩ := h
  simp

/-- What is better than an item is better than all that are not better than that item. -/
theorem Sortable.compare?_of_better (h : Sortable items) (hwanted : wanted ≠ .eq)
    (hitem : item ∈ items) (hbest : best ∈ items) (hx : x ∈ items)
    (hbetter : item.compare? best = some wanted) (hnot : x.compare? best ≠ some wanted) :
    item.compare? x = some wanted := by
  cases wanted with
  | eq => contradiction
  | lt => exact (h.lt_or_lt hitem hx hbest hbetter).resolve_right hnot
  | gt =>
    have hnotBelow : best.compare? x ≠ some .lt := fun heq => hnot (compare?_eq_swap heq)
    have hbelow := (h.lt_or_lt hbest hx hitem (compare?_eq_swap hbetter)).resolve_left hnotBelow
    exact compare?_eq_swap hbelow

/-- A search finds the first of the best items. -/
theorem isFirstBest_of_extreme? (h : Sortable items) (hwanted : wanted ≠ .eq)
    (hbest : extreme? wanted items = some best) : IsFirstBest wanted items best := by
  induction items using List.reverseRecOn generalizing best with
  | nil => cases hbest
  | append_singleton front item ih =>
    by_cases hempty : front = []
    · subst hempty
      cases hbest
      exact ⟨[], [], rfl, nofun, nofun⟩
    · rw [extreme?_concat hempty] at hbest
      obtain ⟨earlier, hearlier, hbetter⟩ := Option.bind_eq_some_iff.mp hbest
      have hfirst := ih h.of_append hearlier
      obtain ⟨order, horder, rfl⟩ := Option.map_eq_some_iff.mp hbetter
      split
      next heq =>
        subst heq
        refine ⟨front, [], rfl, fun x hx => ?_, nofun⟩
        exact h.compare?_of_better hwanted (by simp) (List.mem_append_left _ hfirst.mem)
          (List.mem_append_left _ hx) horder (hfirst.not_better hwanted x hx)
      next hne =>
        obtain ⟨start, back, rfl, hstart, hback⟩ := hfirst
        refine ⟨start, back ++ [item], by simp, hstart, ?_⟩
        refine List.forall_mem_append.mpr ⟨hback, List.forall_mem_singleton.mpr ?_⟩
        rw [horder]
        exact fun heq => hne (Option.some.inj heq)

/-- Of the items that are equal to the first of the best ones it stands in front. -/
theorem IsFirstBest.exists_filter_equals (hwanted : wanted ≠ .eq)
    (h : IsFirstBest wanted items best) (hself : best.equals best) :
    ∃ rest, items.filter best.equals = best :: rest := by
  obtain ⟨front, back, rfl, hfront, -⟩ := h
  have hnone : front.filter best.equals = [] := List.filter_eq_nil_iff.mpr fun x hx =>
    Bool.not_eq_true _ ▸ equals_eq_false (hfront x hx) hwanted
  exact ⟨back.filter best.equals, by
    rw [List.filter_append, hnone, List.nil_append, List.filter_cons_of_pos hself]⟩

/-- The first of the least items is the first one of the sorted items. -/
theorem IsFirstBest.eq_head? (h : Sortable items) (hsort : IsStableSort items result)
    (hbest : IsFirstBest .lt items best) : result.head? = some best := by
  have hmem : best ∈ result := hsort.perm.mem_iff.mpr hbest.mem
  obtain ⟨first, rest, rfl⟩ := List.exists_cons_of_ne_nil (List.ne_nil_of_mem hmem)
  by_cases heq : best = first
  · rw [heq, List.head?_cons]
  exfalso
  have hfirst : first ∈ items := hsort.perm.subset List.mem_cons_self
  have hle : first.AtMost best := (List.pairwise_cons.mp hsort.ascending).1 best
    ((List.mem_cons.mp hmem).resolve_left heq)
  have hge : best.AtMost first := (h.comparable_of_ne hbest.mem hfirst heq).atMost_of_ne
    (hbest.not_better (by decide) first hfirst)
  have hequals : best.equals first := hge.comparable.equals_iff.mpr ⟨hge, hle⟩
  have hself : best.equals best :=
    have hbestLe := h.trans best hbest.mem first hfirst best hbest.mem hge hle
    hbestLe.comparable.equals_iff.mpr ⟨hbestLe, hbestLe⟩
  -- Of the items equal to it, it would stand in front before sorting and the other one after.
  obtain ⟨others, hothers⟩ := hbest.exists_filter_equals (by decide) hself
  have hstable := hsort.stable best hbest.mem
  rw [List.filter_cons_of_pos hequals, hothers] at hstable
  exact heq (List.cons.inj hstable).1.symm

/-- The first of the greatest items is the first one that is equal to the last one of the sorted
items. -/
theorem IsFirstBest.find?_eq {last : Json} (h : Sortable items) (hvalid : ∀ x ∈ items, x.Valid)
    (hsort : IsStableSort items result) (hlast : result.getLast? = some last)
    (hbest : IsFirstBest .gt items best) : items.find? (·.equals last) = some best := by
  obtain ⟨start, rfl⟩ := List.getLast?_eq_some_iff.mp hlast
  have hlastMem : last ∈ items := hsort.perm.subset (by simp)
  have hnotBelow : last.compare? best ≠ some .lt :=
    last_not_lt hsort.ascending best (hsort.perm.mem_iff.mpr hbest.mem)
  have hequals : best.equals last := by
    by_cases heq : best = last
    · exact heq ▸ equals_refl (hvalid best hbest.mem)
    · have hcomparable := h.comparable_of_ne hbest.mem hlastMem heq
      have hnotAbove : best.compare? last ≠ some .lt := fun hlt =>
        hbest.not_better (by decide) last hlastMem (compare?_eq_swap hlt)
      exact hcomparable.equals_iff.mpr ⟨hcomparable.atMost_of_ne hnotBelow,
        hcomparable.symm.atMost_of_ne hnotAbove⟩
  have hbestMem := hbest.mem
  obtain ⟨front, back, heq, hfront, -⟩ := hbest
  refine List.find?_eq_some_iff_append.mpr ⟨hequals, front, back, heq, fun x hx => ?_⟩
  have hx' : x ∈ items := heq ▸ List.mem_append_left _ hx
  have hbelow : x.compare? last = some .lt :=
    (h.lt_or_lt hx' hlastMem hbestMem (compare?_eq_swap (hfront x hx))).resolve_right hnotBelow
  rw [equals_eq_false hbelow (by decide), Bool.not_false]

end Best

/-! ## Texts -/

/-- Among strings the sign `<=` goes by the characters. -/
theorem atMost_string {s t : String} : (string s).AtMost (string t) ↔ s ≤ t := by
  have hcompare : (string s).compare? (string t) = some (compare s t) := rfl
  have hisLE : (compare s t).isLE ↔ s ≤ t :=
    isLE_compareOfLessAndEq String.le_antisymm String.not_le String.le_total
  rw [atMost_iff, hcompare, ← hisLE]
  simp

/-- Strings of one character are in the order of the characters. -/
theorem ofList_singleton_le {c d : Char} : String.ofList [c] ≤ String.ofList [d] ↔ c ≤ d := by
  rw [← String.not_lt, ← Char.not_lt, String.lt_iff, String.toList_ofList, String.toList_ofList,
    List.cons_lt_cons_iff]
  simp

/-- The characters of a text can be put in order. -/
theorem sortable_characters (s : String) : Sortable (characters s) := by
  have huniform := Uniform.strings (s.toList.map fun c => String.ofList [c])
  rw [List.map_map] at huniform
  exact huniform.sortable

/-- Sorting the characters of a text gives those of a text in which they ascend. -/
theorem exists_sortItems_characters (s : String) :
    ∃ cs : List Char, cs.Perm s.toList ∧ cs.Pairwise (· ≤ ·) ∧
      sortItems (characters s) = characters (String.ofList cs) := by
  have hsort := isStableSort_sortItems (sortable_characters s)
  obtain ⟨cs, hresult, hperm⟩ : ∃ cs : List Char,
      sortItems (characters s) = cs.map (fun c => ofChars [c]) ∧ cs.Perm s.toList := by
    have hsplit := List.eq_map_comp_perm fun c => ofChars [c]
    exact (congrFun₂ hsplit (sortItems (characters s)) s.toList).mpr hsort.perm
  have hascending := hsort.ascending
  rw [hresult, List.pairwise_map] at hascending
  refine ⟨cs, hperm, hascending.imp fun hle => ?_, ?_⟩
  · exact ofList_singleton_le.mp (atMost_string.mp hle)
  · rw [hresult, characters, String.toList_ofList]

/-- The names of the fields of an object ascend. -/
theorem pairwise_names {fields : Fields Json} (h : Fields.Sorted fields) :
    ((Fields.names fields).map string).Pairwise AtMost := by
  rw [Fields.names, List.map_map, List.pairwise_map]
  exact h.imp fun hlt => atMost_string.mpr (Std.le_of_lt hlt)

/-! ## Sorting values -/

/-- Items that can be put in order are sorted. -/
theorem Sortable.sorted?_array {items : List Json} (h : Sortable items) :
    (array items).sorted? = some (array (sortItems items)) := by
  have hneighbours : neighboursComparable items :=
    neighboursComparable_iff.mpr h.comparable.isChain
  simp [sorted?, hneighbours]

/-- Items that ascend stay as they are. -/
theorem sorted?_array_of_pairwise {items : List Json} (h : items.Pairwise AtMost) :
    (array items).sorted? = some (array items) := by
  have hneighbours : neighboursComparable items :=
    neighboursComparable_iff.mpr (h.imp AtMost.comparable).isChain
  simp [sorted?, hneighbours, sortItems_of_pairwise h]

/-- The characters of a text are sorted as items. -/
theorem sorted?_string (s : String) :
    (string s).sorted? = some (array (sortItems (characters s))) := by
  rw [← (sortable_characters s).sorted?_array]
  rfl

/-- The names of the fields of an object ascend as they are. -/
theorem sorted?_object {fields : Fields Json} (h : Fields.Sorted fields) :
    (object fields).sorted? = some (array ((Fields.names fields).map string)) := by
  rw [← sorted?_array_of_pairwise (pairwise_names h)]
  rfl

end Json

open Json

/-- The first one of the sorted items is what the search for the least item gives, and the search
for the greatest one gives the first item that is equal to the last one of the sorted items. -/
theorem Arrangement.exists_run?_extreme {items result : List Json} (hne : items ≠ [])
    (hvalid : ∀ item ∈ items, item.Valid) (h : Sortable items)
    (hsort : IsStableSort items result) :
    (∃ least ∈ result.head?, (extreme false).run? items = some least) ∧
    ∃ last ∈ result.getLast?, ∃ greatest ∈ items.find? (·.equals last),
      (extreme true).run? items = some greatest := by
  have hfound : ∀ a : Arrangement, ∃ best, a.run? items = some best := by
    intro a
    refine Option.ne_none_iff_exists'.mp fun hnone => ?_
    exact hasIncomparable_iff.mp (hasIncomparable_of_run? hne hnone) h.comparable
  constructor
  · obtain ⟨least, hleast⟩ := hfound (extreme false)
    have hfirst := isFirstBest_of_extreme? h (by decide) hleast
    exact ⟨least, hfirst.eq_head? h hsort, hleast⟩
  · obtain ⟨greatest, hgreatest⟩ := hfound (extreme true)
    have hfirst := isFirstBest_of_extreme? h (by decide) hgreatest
    have hresult : result ≠ [] := List.ne_nil_of_mem (hsort.perm.mem_iff.mpr hfirst.mem)
    have hlast := List.getLast?_eq_some_getLast hresult
    exact ⟨_, hlast, greatest, hfirst.find?_eq h hvalid hsort hlast, hgreatest⟩

section Calls

variable {r : Registry} (hr : Registry.AgreeOn {"sorted", "min", "max", "keys"} .catalog r)

include hr

/-- Sorting gives what it finds. -/
theorem applyOperation_sorted {v result : Json} (h : v.sorted? = some result) (location : String) :
    applyOperation r v "sorted" [] location = pure result := by
  have hne : v ≠ .null := by
    rintro rfl
    cases h
  rw [hr.applyOperation_alone Arrangement.sorted.entry_mem (by simp) hne, h, Option.getD_some]

/-- The names of the fields of an object. -/
theorem applyOperation_keys (fields : Fields Json) (location : String) :
    applyOperation r (.object fields) "keys" [] location =
      pure (.array ((Fields.names fields).map string)) := by
  have hmem : .maybe "keys" (.alone keys) ∈ Catalog.entries := by
    simp [Catalog.entries, Catalog.sequences]
  exact hr.applyOperation_alone hmem (by simp) (by simp) location

/-- A search gives what it finds. -/
theorem applyOperation_extreme {greatest : Bool} {items : List Json} {best : Json}
    (h : (Arrangement.extreme greatest).run? items = some best) (location : String) :
    applyOperation r (.array items) (Arrangement.extreme greatest).name [] location =
      pure best := by
  have hnames : Set.range Arrangement.name ⊆ {"sorted", "min", "max", "keys"} := by
    rintro - ⟨_ | ⟨_ | _⟩, rfl⟩ <;> simp [Arrangement.name]
  rw [Arrangement.applyOperation_array (hr.mono hnames), h, Option.getD_some]

end Calls

/-- Sorting items that can be put in order is stable and changes nothing when it is done again.
The least item is the first one of the sorted items, and the greatest item is the first one that
is equal to the last one of the sorted items.  Items of one kind can be put in order.  Sorting a
string gives its characters in ascending order, and sorting an object gives the names of its
fields. -/
theorem sorting_agrees_with_searches {r : Registry}
    (hr : Registry.AgreeOn {"sorted", "min", "max", "keys"} .catalog r) (location : String) :
    (∀ items, items ≠ [] → (∀ item ∈ items, item.Valid) → Sortable items →
      ∃ result, IsStableSort items result ∧
        applyOperation r (.array items) "sorted" [] location = pure (.array result) ∧
        applyOperation r (.array result) "sorted" [] location = pure (.array result) ∧
        (∃ least ∈ result.head?,
          applyOperation r (.array items) "min" [] location = pure least) ∧
        ∃ last ∈ result.getLast?, ∃ greatest ∈ items.find? (·.equals last),
          applyOperation r (.array items) "max" [] location = pure greatest) ∧
    (∀ items, Uniform items → Sortable items) ∧
    (∀ s : String, ∃ cs, cs.Perm s.toList ∧ cs.Pairwise (· ≤ ·) ∧
      applyOperation r (.string s) "sorted" [] location =
        pure (.array (characters (String.ofList cs)))) ∧
    ∀ fields, (object fields).Valid →
      applyOperation r (.object fields) "sorted" [] location =
        applyOperation r (.object fields) "keys" [] location ∧
      applyOperation r (.object fields) "keys" [] location =
        pure (.array ((Fields.names fields).map string)) := by
  refine ⟨?_, fun items => Uniform.sortable, ?_, ?_⟩
  · intro items hne hvalid h
    have hsort := isStableSort_sortItems h
    obtain ⟨⟨least, hhead, hleast⟩, last, hlast, greatest, hfind, hgreatest⟩ :=
      Arrangement.exists_run?_extreme hne hvalid h hsort
    refine ⟨sortItems items, hsort, ?_, ?_, ⟨least, hhead, ?_⟩, last, hlast, greatest, hfind, ?_⟩
    · exact applyOperation_sorted hr h.sorted?_array location
    · exact applyOperation_sorted hr (sorted?_array_of_pairwise hsort.ascending) location
    · exact applyOperation_extreme hr hleast location
    · exact applyOperation_extreme hr hgreatest location
  · intro s
    obtain ⟨cs, hperm, hascending, hsorted⟩ := exists_sortItems_characters s
    refine ⟨cs, hperm, hascending, ?_⟩
    rw [applyOperation_sorted hr (sorted?_string s), hsorted]
  · intro fields hvalid
    rw [applyOperation_sorted hr (sorted?_object hvalid.1), applyOperation_keys hr]
    exact ⟨rfl, rfl⟩

/-- The numbers `2`, `1.0`, `1` and `2.0`. -/
def tiedNumbers : List Json :=
  [ofInt 2, ofExtended (.ofInt 1), ofInt 1, ofExtended (.ofInt 2)]

/-- Of the numbers `2`, `1.0`, `1` and `2.0` the least one is `1.0`, and the greatest one is
`2`. -/
theorem sorting_agrees_with_searches_ties :
    Registry.AgreeOn {"sorted", "min", "max", "keys"} .catalog .standard ∧ tiedNumbers ≠ [] ∧
    (∀ item ∈ tiedNumbers, item.Valid) ∧ Sortable tiedNumbers ∧
    (object [("a", .null), ("b", .array tiedNumbers)]).Valid ∧
    ∃ result, IsStableSort tiedNumbers result ∧
      applyOperation .standard (.array tiedNumbers) "sorted" [] ".out" = pure (.array result) ∧
      applyOperation .standard (.object [("a", .null), ("b", .array tiedNumbers)]) "sorted" []
        ".out" = pure (.array [.string "a", .string "b"]) := by
  have hr : Registry.AgreeOn {"sorted", "min", "max", "keys"} .catalog .standard :=
    Registry.agreeOn_standard (by simp)
  have hne : tiedNumbers ≠ [] := nofun
  have hvalid : ∀ item ∈ tiedNumbers, item.Valid := by decide +kernel
  have hsortable : Sortable tiedNumbers := ⟨by decide +kernel, by decide +kernel⟩
  have hobject : (object [("a", .null), ("b", .array tiedNumbers)]).Valid := by decide +kernel
  obtain ⟨hitems, -, -, hobjects⟩ := sorting_agrees_with_searches hr ".out"
  obtain ⟨result, hsort, hsorted, -⟩ := hitems tiedNumbers hne hvalid hsortable
  obtain ⟨hkeys, hnames⟩ := hobjects _ hobject
  exact ⟨hr, hne, hvalid, hsortable, hobject, result, hsort, hsorted, hkeys.trans hnames⟩

end Reshape
