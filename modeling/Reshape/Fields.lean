/-!
# Fields

A table from names to values is kept as the list of its fields in ascending order of
their names, the order of code points.  Setting a field keeps the order, and the last
value set under a name is the one that is found.

Main results:

- Theorem `get?_set`: what is found after a field is set.
- Theorem `Sorted.set`: setting a field keeps the names ascending.
-/

namespace Reshape

/-- Named values, in ascending order of the names. -/
abbrev Fields (α : Type) := List (String × α)

namespace Fields

variable {α : Type}

/-- The value under a name. -/
def get? (name : String) : Fields α → Option α
  | [] => none
  | (key, value) :: rest => if key = name then some value else get? name rest

/-- The fields with a value set under a name. -/
def set (name : String) (value : α) : Fields α → Fields α
  | [] => [(name, value)]
  | (key, old) :: rest =>
    if name < key then (name, value) :: (key, old) :: rest
    else if key = name then (name, value) :: rest
    else (key, old) :: set name value rest

/-- The fields without the one under a name. -/
def erase (name : String) (fields : Fields α) : Fields α :=
  fields.filter fun field => field.1 != name

/-- The fields that result from setting the given ones from left to right. -/
def ofList (entries : List (String × α)) : Fields α :=
  entries.foldl (fun fields entry => fields.set entry.1 entry.2) []

/-- The names in ascending order. -/
def names (fields : Fields α) : List String :=
  fields.map Prod.fst

/-- Names ascend strictly. -/
def Sorted (fields : Fields α) : Prop :=
  fields.Pairwise fun a b => a.1 < b.1

/-- A set field is found under its own name, and every other name is as before. -/
theorem get?_set (name other : String) (value : α) (fields : Fields α) :
    get? other (set name value fields) =
      if name = other then some value else get? other fields := by
  induction fields with
  | nil => rfl
  | cons field rest ih =>
    obtain ⟨key, old⟩ := field
    simp only [set]
    split
    · simp [get?]
    · split
      · rename_i h
        subst h
        by_cases ho : key = other <;> simp [get?, ho]
      · rename_i h
        by_cases hn : name = other
        · subst hn; simp [get?, h, ih]
        · simp [get?, ih, hn]

/-- Every name of the fields after one is set is that name or an old one. -/
theorem mem_set {name : String} {value : α} {fields : Fields α} {field : String × α}
    (h : field ∈ set name value fields) : field = (name, value) ∨ field ∈ fields := by
  induction fields with
  | nil => exact .inl (List.mem_singleton.mp h)
  | cons head rest ih =>
    simp only [set] at h
    split at h
    · simpa using h
    · split at h
      · simp only [List.mem_cons] at h ⊢
        exact h.imp_right .inr
      · rcases List.mem_cons.mp h with h | h
        · exact .inr (h ▸ List.mem_cons_self)
        · exact (ih h).imp_right (List.mem_cons_of_mem _)

/-- Setting a field keeps the names ascending. -/
theorem Sorted.set {fields : Fields α} (h : fields.Sorted) (name : String) (value : α) :
    Sorted (Fields.set name value fields) := by
  induction fields with
  | nil => exact List.pairwise_singleton _ _
  | cons head rest ih =>
    obtain ⟨key, old⟩ := head
    obtain ⟨hhead, hrest⟩ := List.pairwise_cons.mp h
    simp only [Fields.set]
    split
    · rename_i hlt
      refine List.pairwise_cons.mpr ⟨fun field hf => ?_, h⟩
      rcases List.mem_cons.mp hf with rfl | hf
      · exact hlt
      · exact String.lt_trans hlt (hhead field hf)
    · split
      · rename_i heq
        subst heq
        exact List.pairwise_cons.mpr ⟨hhead, hrest⟩
      · rename_i hlt hne
        refine List.pairwise_cons.mpr ⟨fun field hf => ?_, ih hrest⟩
        rcases mem_set hf with rfl | hf
        · exact Decidable.byContradiction fun h =>
            hne (String.le_antisymm (String.not_lt.mp hlt) (String.not_lt.mp h))
        · exact hhead field hf

end Fields

end Reshape
