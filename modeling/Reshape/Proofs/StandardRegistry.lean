import Mathlib.Data.List.Nodup
import Reshape.Standard

/-!
# What the standard registry holds

The catalog is a list of entries with names of their own, so every entry is what its name
finds, in the registry of the catalog and in the standard registry alike.

Main results:

- Theorem `operation?_standard_of_mem`: the operation under the name of an entry.
- Theorem `exists_entry_of_operation?_catalog`: the catalog holds nothing but its entries.
- Theorems `callback?_standard_records`, `callback?_standard_lookup`: the callbacks under
  their names.
- Theorem `callback?_standard_cases`: there are no other callbacks.
- Theorem `Entry.registered_eq_pure`: an entry never fails on a number of arguments that
  it takes.
-/

namespace Reshape

open Catalog

/-! ## Entries -/

namespace Catalog

/-- The operation of an entry as it is registered. -/
def Entry.registered (entry : Entry) : Operation :=
  if entry.propagatesNull then Operation.maybe entry.operation else entry.operation

/-- Registering an entry puts its operation under its name. -/
theorem Entry.add_registration (r : Registry) (entry : Entry) :
    r.add entry.registration = r.register entry.name entry.registered := by
  unfold Entry.registration Entry.registered
  split <;> rfl

/-- On a number of arguments that it takes, an entry gives a value. -/
theorem Entry.registered_eq_pure {entry : Entry} {arguments : List Json}
    (h : entry.body.takes arguments.length) (value : Json) :
    ∃ result, entry.registered value arguments = pure result := by
  rcases (entry.body.run_eq_ok_iff value arguments).mpr h with ⟨result, hrun⟩
  have hoperation : entry.operation value arguments = pure result := by
    simp [Entry.operation, hrun]
  unfold Entry.registered
  split
  · unfold Operation.maybe
    split
    · exact ⟨.null, rfl⟩
    · exact ⟨result, hoperation⟩
  · exact ⟨result, hoperation⟩

/-- Entries have names of their own. -/
theorem names_nodup : (entries.map Entry.name).Nodup := by
  decide

/-- The operation on files is no entry. -/
theorem enumFileChange_notMem_names : "enumFileChange" ∉ entries.map Entry.name := by
  decide

end Catalog

/-! ## Registries of entries -/

namespace Registry

/-- Registering entries leaves the operations under all other names. -/
theorem operation?_extend_of_notMem (r : Registry) {entries : List Entry} {name : String}
    (h : name ∉ entries.map Entry.name) :
    (r.extend (entries.map Entry.registration)).operation? name = r.operation? name := by
  induction entries generalizing r with
  | nil => rfl
  | cons entry entries ih =>
    obtain ⟨hname, hrest⟩ : name ≠ entry.name ∧ name ∉ entries.map Entry.name := by
      simpa using h
    rw [List.map_cons, extend, List.foldl_cons, ← extend, ih _ hrest, Entry.add_registration,
      operation?_register, if_neg (Ne.symm hname)]

/-- Entries with names of their own are found under them. -/
theorem operation?_extend_of_mem (r : Registry) {entries : List Entry} {entry : Entry}
    (hnodup : (entries.map Entry.name).Nodup) (h : entry ∈ entries) :
    (r.extend (entries.map Entry.registration)).operation? entry.name =
      some entry.registered := by
  induction entries generalizing r with
  | nil => simp at h
  | cons head entries ih =>
    rcases List.nodup_cons.mp hnodup with ⟨hhead, hrest⟩
    rw [List.map_cons, extend, List.foldl_cons, ← extend, Entry.add_registration]
    rcases List.mem_cons.mp h with rfl | h
    · rw [operation?_extend_of_notMem _ hhead, operation?_register, if_pos rfl]
    · exact ih _ hrest h

/-- The standard registry adds one operation to the catalog. -/
theorem operation?_standard (name : String) :
    standard.operation? name =
      if "enumFileChange" = name then some (Operation.maybe lookupInFile)
      else catalog.operation? name := by
  simp only [standard, collaborators, extend, List.foldl_cons, List.foldl_nil, add,
    registerMaybe, operation?_register, operation?_registerCallback]

/-- An entry is found under its name in the catalog. -/
theorem operation?_catalog_of_mem {entry : Entry} (h : entry ∈ entries) :
    catalog.operation? entry.name = some entry.registered :=
  operation?_extend_of_mem _ names_nodup h

/-- Nothing is found in the catalog under a name that no entry has. -/
theorem operation?_catalog_eq_none {name : String} (h : name ∉ entries.map Entry.name) :
    catalog.operation? name = none :=
  operation?_extend_of_notMem .empty h

/-- Nothing is found in the standard registry under a name that no entry has, but for the
operation on files. -/
theorem operation?_standard_eq_none {name : String} (h : name ∉ entries.map Entry.name)
    (hfile : name ≠ "enumFileChange") : standard.operation? name = none := by
  rw [operation?_standard, if_neg hfile.symm, operation?_catalog_eq_none h]

/-- What is found in the catalog is an entry under its name. -/
theorem exists_entry_of_operation?_catalog {name : String} {operation : Operation}
    (h : catalog.operation? name = some operation) :
    ∃ entry ∈ entries, entry.name = name ∧ operation = entry.registered := by
  by_cases hname : name ∈ entries.map Entry.name
  · rcases List.mem_map.mp hname with ⟨entry, hentry, rfl⟩
    rw [operation?_catalog_of_mem hentry] at h
    exact ⟨entry, hentry, rfl, (Option.some.inj h).symm⟩
  · rw [operation?_catalog_eq_none hname] at h
    cases h

/-- An entry is found under its name in the standard registry. -/
theorem operation?_standard_of_mem {entry : Entry} (h : entry ∈ entries) :
    standard.operation? entry.name = some entry.registered := by
  have hne : "enumFileChange" ≠ entry.name := by
    intro hname
    exact enumFileChange_notMem_names (hname ▸ List.mem_map_of_mem h)
  rw [operation?_standard, if_neg hne, operation?_catalog_of_mem h]

/-- The names under which the callback for nested records is found. -/
def recordsNames : List String :=
  ["transform", "list", "jtl_change"]

/-- The names under which the callback for lookup tables is found. -/
def lookupNames : List String :=
  ["enumChange", "enum_change"]

/-- The callback for nested records is found under its names. -/
theorem callback?_standard_records {name : String} (h : name ∈ recordsNames) :
    standard.callback? name = some recordsCallback := by
  simp only [recordsNames, List.mem_cons, List.not_mem_nil, or_false] at h
  rcases h with rfl | rfl | rfl <;> rfl

/-- The callback for lookup tables is found under its names. -/
theorem callback?_standard_lookup {name : String} (h : name ∈ lookupNames) :
    standard.callback? name = some lookupCallback := by
  simp only [lookupNames, List.mem_cons, List.not_mem_nil, or_false] at h
  rcases h with rfl | rfl <;> rfl

/-- Entries do not register callbacks. -/
theorem callback?_extend_registration (r : Registry) (entries : List Entry) (name : String) :
    (r.extend (entries.map Entry.registration)).callback? name = r.callback? name := by
  induction entries generalizing r with
  | nil => rfl
  | cons entry entries ih =>
    rw [List.map_cons, extend, List.foldl_cons, ← extend, ih, Entry.add_registration,
      callback?_register]

/-- The collaborators register callbacks under no other names. -/
theorem callback?_extend_collaborators (r : Registry) {name : String}
    (hrecords : name ∉ recordsNames) (hlookup : name ∉ lookupNames) :
    (r.extend collaborators).callback? name = r.callback? name := by
  simp only [recordsNames, lookupNames, List.mem_cons, List.not_mem_nil, or_false,
    not_or] at hrecords hlookup
  simp only [collaborators, extend, List.foldl_cons, List.foldl_nil, add, registerMaybe,
    callback?_register, callback?_registerCallback]
  simp [eq_comm, hrecords, hlookup]

/-- No callback is found under any other name. -/
theorem callback?_standard_of_notMem {name : String} (hrecords : name ∉ recordsNames)
    (hlookup : name ∉ lookupNames) : standard.callback? name = none := by
  rw [standard, callback?_extend_collaborators _ hrecords hlookup, catalog,
    callback?_extend_registration]
  rfl

/-- What is found under a name is one of the two callbacks. -/
theorem callback?_standard_cases {name : String} {callback : Callback}
    (h : standard.callback? name = some callback) :
    (name ∈ recordsNames ∧ callback = recordsCallback) ∨
      (name ∈ lookupNames ∧ callback = lookupCallback) := by
  by_cases hrecords : name ∈ recordsNames
  · rw [callback?_standard_records hrecords] at h
    exact .inl ⟨hrecords, (Option.some.inj h).symm⟩
  · by_cases hlookup : name ∈ lookupNames
    · rw [callback?_standard_lookup hlookup] at h
      exact .inr ⟨hlookup, (Option.some.inj h).symm⟩
    · rw [callback?_standard_of_notMem hrecords hlookup] at h
      cases h

end Registry

end Reshape
