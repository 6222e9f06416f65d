import Reshape.Proofs.TemplateNodes

/-!
# Parts of values

A value has parts as a template has: the items of an array and the values of the fields of
an object, each a step below its container.  What holds of a value when it holds of all its
parts holds of every value, and a part of a valid value is valid.

The fields of a valid object have ascending names, so each value is what its name finds.

Main results:

- Theorem `Fields.Sorted.get?_of_mem`: what is found among ascending names.
- Definition `Json.parts`: the parts of a value with the steps to them.
- Theorem `Json.induction`: a property of all parts of each value holds of every value.
- Theorem `Json.kinds_induction`: the same for each kind of values.
- Theorem `Json.Valid.of_part`: parts of valid values are valid.
-/

namespace Reshape

/-! ## Fields by name -/

namespace Fields

variable {α : Type} {name : String} {value : α} {fields : Fields α}

/-- What is found under a name is the value of a field. -/
theorem mem_of_get? (h : get? name fields = some value) : (name, value) ∈ fields := by
  induction fields with
  | nil => cases h
  | cons field fields ih =>
    rcases field with ⟨key, first⟩
    rw [get?] at h
    split at h
    · rename_i hkey
      cases h
      rw [hkey]
      exact List.mem_cons_self
    · exact List.mem_cons_of_mem _ (ih h)

/-- Among ascending names each value is what its name finds. -/
theorem Sorted.get?_of_mem (h : Sorted fields) (hmem : (name, value) ∈ fields) :
    get? name fields = some value := by
  induction fields with
  | nil => cases hmem
  | cons field fields ih =>
    rcases field with ⟨key, first⟩
    rcases List.pairwise_cons.mp h with ⟨hfirst, hrest⟩
    rw [get?]
    rcases List.mem_cons.mp hmem with heq | hmem
    · cases heq
      rw [if_pos rfl]
    · rw [if_neg (String.ne_of_lt (hfirst _ hmem)), ih hrest hmem]

/-- Ascending names are different. -/
theorem Sorted.nodup_names (h : Sorted fields) : (names fields).Nodup :=
  List.pairwise_map.mpr (h.imp fun hlt => String.ne_of_lt hlt)

/-- What is found after a name is left out. -/
theorem get?_erase (name other : String) (fields : Fields α) :
    get? other (erase name fields) = if name = other then none else get? other fields := by
  induction fields with
  | nil => simp [erase, get?]
  | cons field fields ih =>
    rcases field with ⟨key, value⟩
    rw [erase] at ih ⊢
    by_cases hkey : key = name
    · subst hkey
      by_cases hname : key = other <;> simp_all [get?]
    · by_cases hother : key = other
      · subst hother
        simp [get?, hkey, Ne.symm hkey]
      · simp [get?, hkey, hother, ih]

/-- Names ascend when one is left out. -/
theorem Sorted.erase (h : Sorted fields) (name : String) :
    Sorted (Fields.erase name fields) :=
  List.Pairwise.filter _ h

end Fields

/-! ## Parts -/

namespace Json

/-- The parts of a container with the steps that lead to them, in their order. -/
def parts : Json → List (Step × Json)
  | object fields => fields.map fun field => (.field field.1, field.2)
  | array items => items.zipIdx.map fun item => (.item item.2, item.1)
  | _ => []

section Containers

variable {P : Json → Prop}

/-- The parts of an object are the values of its fields. -/
theorem forall_parts_object {fields : Fields Json} :
    (∀ part ∈ (object fields).parts, P part.2) ↔ ∀ field ∈ fields, P field.2 :=
  List.forall_mem_map

/-- The parts of an array are its items. -/
theorem forall_parts_array {items : List Json} :
    (∀ part ∈ (array items).parts, P part.2) ↔ ∀ item ∈ items, P item := by
  constructor
  · intro h item hitem
    rcases List.mem_iff_getElem?.mp hitem with ⟨index, hindex⟩
    have hmem := List.mk_mem_zipIdx_iff_getElem?.mpr hindex
    exact h (.item index, item) (List.mem_map_of_mem hmem)
  · intro h part hpart
    rcases List.mem_map.mp hpart with ⟨item, hitem, rfl⟩
    exact h item.1 (List.fst_mem_of_mem_zipIdx hitem)

end Containers

mutual

/-- A value has every property that each value has of which all parts have it. -/
theorem induction {motive : Json → Prop}
    (step : ∀ v, (∀ part ∈ v.parts, motive part.2) → motive v) (v : Json) : motive v := by
  apply step
  cases v with
  | object fields => exact forall_parts_object.mpr (forall_fields step fields)
  | array items => exact forall_parts_array.mpr (forall_items step items)
  | null | bool | number | string => simp [parts]

/-- Fields have every property that each value has of which all parts have it. -/
theorem forall_fields {motive : Json → Prop}
    (step : ∀ v, (∀ part ∈ v.parts, motive part.2) → motive v) (fields : List (String × Json)) :
    ∀ field ∈ fields, motive field.2 := by
  cases fields with
  | nil => simp
  | cons field fields =>
    rcases field with ⟨name, value⟩
    exact List.forall_mem_cons.mpr ⟨induction step value, forall_fields step fields⟩

/-- Items have every property that each value has of which all parts have it. -/
theorem forall_items {motive : Json → Prop}
    (step : ∀ v, (∀ part ∈ v.parts, motive part.2) → motive v) (items : List Json) :
    ∀ item ∈ items, motive item := by
  cases items with
  | nil => simp
  | cons item items =>
    exact List.forall_mem_cons.mpr ⟨induction step item, forall_items step items⟩

end

/-- The same induction kind by kind. -/
theorem kinds_induction {motive : Json → Prop} (null : motive null)
    (bool : ∀ b, motive (bool b)) (number : ∀ n, motive (number n))
    (string : ∀ s, motive (string s))
    (array : ∀ items, (∀ item ∈ items, motive item) → motive (array items))
    (object : ∀ fields : Fields Json, (∀ field ∈ fields, motive field.2) → motive (object fields))
    (v : Json) : motive v := by
  induction v using Json.induction with
  | step v ih =>
    cases v with
    | null => exact null
    | bool b => exact bool b
    | number n => exact number n
    | string s => exact string s
    | array items => exact array items (forall_parts_array.mp ih)
    | object fields => exact object fields (forall_parts_object.mp ih)

/-! ## Valid values -/

instance (fields : Fields Json) : Decidable (Fields.Sorted fields) :=
  inferInstanceAs (Decidable (List.Pairwise _ _))

mutual

/-- Validity can be decided. -/
def decidableValid : (v : Json) → Decidable v.Valid
  | number n => inferInstanceAs (Decidable n.Valid)
  | array items => decidableValidItems items
  | object fields => @instDecidableAnd _ _ inferInstance (decidableValidFields fields)
  | null | bool _ | string _ => .isTrue trivial

/-- Validity of items can be decided. -/
def decidableValidItems : (items : List Json) → Decidable (ValidItems items)
  | [] => .isTrue trivial
  | item :: items => @instDecidableAnd _ _ (decidableValid item) (decidableValidItems items)

/-- Validity of fields can be decided. -/
def decidableValidFields : (fields : List (String × Json)) → Decidable (ValidFields fields)
  | [] => .isTrue trivial
  | (_, value) :: fields => @instDecidableAnd _ _ (decidableValid value)
    (decidableValidFields fields)

end

instance : DecidablePred Valid :=
  decidableValid

/-- A field of valid fields holds a valid value. -/
theorem valid_of_mem_fields {fields : List (String × Json)} (h : ValidFields fields)
    {field : String × Json} (hmem : field ∈ fields) : field.2.Valid := by
  induction fields with
  | nil => cases hmem
  | cons first fields ih =>
    rcases List.mem_cons.mp hmem with rfl | hmem
    · exact h.1
    · exact ih h.2 hmem

/-- An item of valid items is valid. -/
theorem valid_of_mem_items {items : List Json} (h : ValidItems items) {item : Json}
    (hmem : item ∈ items) : item.Valid := by
  induction items with
  | nil => cases hmem
  | cons first items ih =>
    rcases List.mem_cons.mp hmem with rfl | hmem
    · exact h.1
    · exact ih h.2 hmem

/-- A part of a valid value is valid. -/
theorem Valid.of_part {v : Json} (h : v.Valid) : ∀ part ∈ v.parts, part.2.Valid := by
  cases v with
  | object fields => exact forall_parts_object.mpr fun field => valid_of_mem_fields h.2
  | array items => exact forall_parts_array.mpr fun item => valid_of_mem_items h
  | null | bool | number | string => simp [parts]

end Json

end Reshape
