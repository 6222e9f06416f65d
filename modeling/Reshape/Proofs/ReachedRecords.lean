import Reshape.Proofs.ErrorPlaces
import Reshape.Proofs.ValueParts

/-!
# Records reached through arrays

The records in a value are the objects that are reached through arrays only: the value itself, or
those in its items, in the items of its items and so on.  Each is found by its indexes, and they are
listed in the order in which they are read, which is that of their indexes.

The records can be replaced by other values.  All arrays keep their lengths then, and what is
neither an array nor a record stays as it is.

Main results:

- Definition `Json.records`: the records in a value with their indexes.
- Theorem `Json.mem_records`: they are the objects that indexes lead to.
- Theorem `Json.records_ascending`: they are in the order of their indexes.
- Definition `Json.withRecords`: a value with its records replaced.
- Theorem `Json.replacesRecords_withRecords`: nothing else is replaced.
- Theorem `Json.ReplacesRecords.unique`: there is one such value.
-/

namespace Reshape

namespace Json

/-! ## Records by their indexes -/

mutual

/-- The records in a value, each with the indexes that lead to it. -/
def records : Json → List (List Nat × Fields Json)
  | object fields => [([], fields)]
  | array items => recordsOfItems 0 items
  | _ => []

/-- The records in items, of which the first one has the given index. -/
def recordsOfItems (index : Nat) : List Json → List (List Nat × Fields Json)
  | [] => []
  | item :: items =>
    (records item).map (fun record => (index :: record.1, record.2)) ++
      recordsOfItems (index + 1) items

end

/-- The records in items are those in each of them. -/
theorem recordsOfItems_eq_flatMap (index : Nat) (items : List Json) :
    recordsOfItems index items = (items.zipIdx index).flatMap fun item =>
      item.1.records.map fun record => (item.2 :: record.1, record.2) := by
  induction items generalizing index with
  | nil => rfl
  | cons item items ih => rw [recordsOfItems, ih, List.zipIdx_cons, List.flatMap_cons]

/-- Indexes lead from an array on to one of its items. -/
theorem partAt?_array_cons (items : List Json) (index : Nat) (indexes : List Nat) :
    (array items).partAt? (itemTrail (index :: indexes)) =
      items[index]?.bind (·.partAt? (itemTrail indexes)) :=
  rfl

/-- Indexes lead nowhere from a value that is no array. -/
theorem partAt?_itemTrail_eq_some_iff {v part : Json} (h : ∀ items, v ≠ array items)
    {indexes : List Nat} : v.partAt? (itemTrail indexes) = some part ↔ indexes = [] ∧ v = part := by
  cases indexes with
  | nil => simp [itemTrail, partAt?]
  | cons index indexes =>
    have hnone : v.part? (.item index) = none := by
      cases v with
      | array items => exact absurd rfl (h items)
      | null | bool | number | string | object => rfl
    rw [itemTrail, List.map_cons, partAt?_cons, hnone]
    simp

/-- The records in a value are the objects that indexes lead to. -/
theorem mem_records {v : Json} {indexes : List Nat} {fields : Fields Json} :
    (indexes, fields) ∈ v.records ↔ v.partAt? (itemTrail indexes) = some (object fields) := by
  induction v using Json.kinds_induction generalizing indexes with
  | null | bool | number | string =>
    rw [partAt?_itemTrail_eq_some_iff (by simp)]
    simp [records]
  | object =>
    rw [partAt?_itemTrail_eq_some_iff (by simp)]
    simp [records, eq_comm]
  | array items ih =>
    cases indexes with
    | nil => simp [records, recordsOfItems_eq_flatMap, itemTrail, partAt?]
    | cons index indexes =>
      rw [records, recordsOfItems_eq_flatMap, partAt?_array_cons, Option.bind_eq_some_iff]
      simp only [List.mem_flatMap, List.mem_map, Prod.exists, Prod.mk.injEq, List.cons.injEq,
        List.mk_mem_zipIdx_iff_getElem?]
      constructor
      · rintro ⟨item, _, hitem, rest, found, hrecord, ⟨rfl, rfl⟩, rfl⟩
        exact ⟨item, hitem, (ih item (List.mem_of_getElem? hitem)).mp hrecord⟩
      · rintro ⟨item, hitem, hpart⟩
        exact ⟨item, index, hitem, indexes, fields,
          (ih item (List.mem_of_getElem? hitem)).mpr hpart, ⟨rfl, rfl⟩, rfl⟩

/-- Records are in the order of their indexes. -/
theorem records_ascending (v : Json) :
    v.records.Pairwise fun record other => List.Lex (· < ·) record.1 other.1 := by
  induction v using Json.kinds_induction with
  | null | bool | number | string => exact .nil
  | object => exact List.pairwise_singleton _ _
  | array items ih =>
    rw [records, recordsOfItems_eq_flatMap, List.pairwise_flatMap]
    constructor
    · intro item hitem
      rw [List.pairwise_map]
      exact (ih item.1 (List.fst_mem_of_mem_zipIdx hitem)).imp .cons
    · apply (pairwise_zipIdx 0 items).imp
      intro item other hlt record hrecord next hnext
      obtain ⟨_, -, rfl⟩ := List.mem_map.mp hrecord
      obtain ⟨_, -, rfl⟩ := List.mem_map.mp hnext
      exact .rel hlt

/-! ## Replaced records -/

mutual

/-- A value with its records replaced by values in their order. -/
def withRecords : Json → List Json → Json
  | object _, values => values.headD null
  | array items, values => array (withRecordsItems items values)
  | v, _ => v

/-- Items with their records replaced by values in their order. -/
def withRecordsItems : List Json → List Json → List Json
  | [], _ => []
  | item :: items, values =>
    withRecords item (values.take (records item).length) ::
      withRecordsItems items (values.drop (records item).length)

end

/-- Values without parts: null, truth values, numbers and strings. -/
def isScalar : Json → Bool
  | array _ | object _ => false
  | _ => true

/-- A value is another one with its records replaced, in their order.  Its arrays are as long as
those of the other one and stand at the same indexes, and so do values that are neither arrays nor
records. -/
structure ReplacesRecords (v : Json) (values : List Json) (w : Json) : Prop where
  arrays : ∀ indexes items, v.partAt? (itemTrail indexes) = some (array items) →
    ∃ items', w.partAt? (itemTrail indexes) = some (array items') ∧ items'.length = items.length
  scalars : ∀ indexes part, v.partAt? (itemTrail indexes) = some part → part.isScalar →
    w.partAt? (itemTrail indexes) = some part
  records : List.Forall₂ (fun record value => w.partAt? (itemTrail record.1) = some value)
    v.records values

/-- Items keep their number. -/
theorem length_withRecordsItems (items values : List Json) :
    (withRecordsItems items values).length = items.length := by
  induction items generalizing values with
  | nil => rfl
  | cons item items ih => rw [withRecordsItems, List.length_cons, List.length_cons, ih]

/-- An item has its records replaced by some of the values. -/
theorem exists_getElem?_withRecordsItems {items : List Json} {index : Nat} {item : Json}
    (h : items[index]? = some item) (values : List Json) :
    ∃ own, (withRecordsItems items values)[index]? = some (item.withRecords own) := by
  induction items generalizing index values with
  | nil => cases h
  | cons first items ih =>
    cases index with
    | zero =>
      obtain rfl := Option.some.inj h
      exact ⟨_, rfl⟩
    | succ index => exact ih h _

/-- What indexes lead to has its records replaced by some of the values, unless it lies inside of a
record. -/
theorem exists_partAt?_withRecords {v part : Json} {indexes : List Nat}
    (h : v.partAt? (itemTrail indexes) = some part) (values : List Json) :
    ∃ own, (v.withRecords values).partAt? (itemTrail indexes) = some (part.withRecords own) := by
  induction indexes generalizing v values with
  | nil =>
    obtain rfl := Option.some.inj h
    exact ⟨values, rfl⟩
  | cons index indexes ih =>
    cases v with
    | array items =>
      rw [partAt?_array_cons, Option.bind_eq_some_iff] at h
      obtain ⟨item, hitem, hpart⟩ := h
      obtain ⟨inner, hinner⟩ := exists_getElem?_withRecordsItems hitem values
      obtain ⟨own, hown⟩ := ih hpart inner
      refine ⟨own, ?_⟩
      rw [withRecords, partAt?_array_cons, hinner, Option.bind_some, hown]
    | null | bool | number | string | object => cases h

mutual

/-- Each record is replaced by its value. -/
theorem forall₂_records_withRecords (v : Json) {values : List Json}
    (h : values.length = v.records.length) :
    List.Forall₂ (fun record value =>
      (v.withRecords values).partAt? (itemTrail record.1) = some value) v.records values := by
  cases v with
  | object fields =>
    obtain ⟨value, rfl⟩ := List.length_eq_one_iff.mp h
    exact .cons rfl .nil
  | array items => exact forall₂_recordsOfItems_withRecords items [] h
  | null | bool | number | string =>
    obtain rfl := List.eq_nil_of_length_eq_zero h
    exact .nil

/-- Each record in items behind others is replaced by its value. -/
theorem forall₂_recordsOfItems_withRecords (items front : List Json) {values : List Json}
    (h : values.length = (recordsOfItems front.length items).length) :
    List.Forall₂ (fun record value =>
      (array (front ++ withRecordsItems items values)).partAt? (itemTrail record.1) = some value)
      (recordsOfItems front.length items) values := by
  cases items with
  | nil =>
    obtain rfl := List.eq_nil_of_length_eq_zero h
    exact .nil
  | cons item items =>
    rw [recordsOfItems, List.length_append, List.length_map] at h
    rw [recordsOfItems, withRecordsItems]
    -- The first values are for the item.  It joins the front, so that the indexes of the records
    -- behind it are those in the whole array.
    have htake : (values.take (records item).length).length = (records item).length := by
      rw [List.length_take]
      omega
    have hdrop : (values.drop (records item).length).length =
        (recordsOfItems (front ++ [item.withRecords (values.take (records item).length)]).length
          items).length := by
      rw [List.length_drop, List.length_append, List.length_singleton]
      omega
    have hown := forall₂_records_withRecords item htake
    have hrest := forall₂_recordsOfItems_withRecords items _ hdrop
    rw [List.length_append, List.length_singleton, List.append_assoc, List.singleton_append]
      at hrest
    conv => rhs; rw [← List.take_append_drop (records item).length values]
    refine List.rel_append ?_ hrest
    rw [List.forall₂_map_left_iff]
    refine hown.imp fun record value hvalue => ?_
    rw [partAt?_array_cons, List.getElem?_append_right (le_refl _), Nat.sub_self]
    exact hvalue

end

/-- A scalar has no records to replace. -/
theorem withRecords_of_isScalar {v : Json} (h : v.isScalar) (values : List Json) :
    v.withRecords values = v := by
  cases v with
  | array | object => cases h
  | null | bool | number | string => rfl

/-- Records replaced by as many values leave everything else as it is. -/
theorem replacesRecords_withRecords {v : Json} {values : List Json}
    (h : values.length = v.records.length) : v.ReplacesRecords values (v.withRecords values) where
  arrays := by
    intro indexes items hitems
    obtain ⟨own, hown⟩ := exists_partAt?_withRecords hitems values
    exact ⟨withRecordsItems items own, hown, length_withRecordsItems items own⟩
  scalars := by
    intro indexes part hpart hscalar
    obtain ⟨own, hown⟩ := exists_partAt?_withRecords hpart values
    rw [hown, withRecords_of_isScalar hscalar]
  records := forall₂_records_withRecords v h

/-- Values with arrays of the same lengths at the places of the arrays in another value, and the
same values at the places of everything else in it, are the same. -/
theorem eq_of_partAt?_itemTrail {v w w' : Json}
    (harrays : ∀ indexes items, v.partAt? (itemTrail indexes) = some (array items) →
      ∃ xs ys, w.partAt? (itemTrail indexes) = some (array xs) ∧ xs.length = items.length ∧
        w'.partAt? (itemTrail indexes) = some (array ys) ∧ ys.length = items.length)
    (hothers : ∀ indexes part, v.partAt? (itemTrail indexes) = some part →
      (∀ items, part ≠ array items) →
      w.partAt? (itemTrail indexes) = w'.partAt? (itemTrail indexes)) : w = w' := by
  induction v using Json.kinds_induction generalizing w w' with
  | null | bool | number | string | object =>
    exact Option.some.inj (hothers [] _ rfl (by simp))
  | array items ih =>
    obtain ⟨xs, ys, hw, hxs, hw', hys⟩ := harrays [] items rfl
    obtain rfl : w = array xs := Option.some.inj hw
    obtain rfl : w' = array ys := Option.some.inj hw'
    congr 1
    apply List.ext_getElem (hxs.trans hys.symm)
    intro index hx hy
    have hitem : index < items.length := hxs ▸ hx
    have hpart (zs : List Json) (hz : index < zs.length) (indexes : List Nat) :
        (array zs).partAt? (itemTrail (index :: indexes)) =
          zs[index].partAt? (itemTrail indexes) := by
      rw [partAt?_array_cons, List.getElem?_eq_getElem hz, Option.bind_some]
    apply ih items[index] (List.getElem_mem hitem)
    · intro indexes inner hinner
      rw [← hpart items hitem] at hinner
      rw [← hpart xs hx, ← hpart ys hy]
      exact harrays (index :: indexes) inner hinner
    · intro indexes part hinner hne
      rw [← hpart items hitem] at hinner
      rw [← hpart xs hx, ← hpart ys hy]
      exact hothers (index :: indexes) part hinner hne

/-- There is one value with the records replaced. -/
theorem ReplacesRecords.unique {v w w' : Json} {values : List Json}
    (h : v.ReplacesRecords values w) (h' : v.ReplacesRecords values w') : w = w' := by
  apply eq_of_partAt?_itemTrail (v := v)
  · intro indexes items hitems
    obtain ⟨xs, hw, hxs⟩ := h.arrays indexes items hitems
    obtain ⟨ys, hw', hys⟩ := h'.arrays indexes items hitems
    exact ⟨xs, ys, hw, hxs, hw', hys⟩
  · intro indexes part hpart hne
    cases part with
    | array items => exact absurd rfl (hne items)
    | object fields =>
      obtain ⟨place, hplace, hrecord⟩ := List.mem_iff_getElem.mp (mem_records.mpr hpart)
      have hlt : place < values.length := h.records.length_eq ▸ hplace
      have hvalue := h.records.get hplace hlt
      have hvalue' := h'.records.get hplace hlt
      simp only [List.get_eq_getElem, hrecord] at hvalue hvalue'
      rw [hvalue, hvalue']
    | null | bool | number | string =>
      rw [h.scalars indexes _ hpart rfl, h'.scalars indexes _ hpart rfl]

end Json

end Reshape
