import Reshape.Proofs.NamedOperations
import Reshape.Proofs.StandardRegistry

/-!
# Calls of the catalog

An operation of the catalog does the same in every registry that agrees with the catalog on its
name, whatever else is registered there.  With as many arguments as it takes it gives a value and
no error: the one that its body computes, or null when it propagates null and meets one.

Main results:

- Theorem `Registry.agreeOn_standard`: the standard registry agrees with the catalog.
- Theorem `Registry.AgreeOn.applyOperation_entry`: what an operation of the catalog gives.
- Theorem `Registry.AgreeOn.applyOperation_of_ne_null`: what it gives when nothing is null.
-/

namespace Reshape

open Catalog

/-- Values other than null count as not null. -/
theorem Json.isNull_eq_false_iff {v : Json} : v.isNull = false ↔ v ≠ .null := by
  cases v <;> simp [isNull]

/-- An integer is not null. -/
theorem Json.ofInt_ne_null (n : Int) : ofInt n ≠ null :=
  nofun

/-- Integers are told apart as results. -/
theorem Run.pure_ofInt_inj {m n : Int} :
    (pure (Json.ofInt m) : Run Json) = pure (Json.ofInt n) ↔ m = n := by
  constructor
  · intro h
    exact Number.integer.inj (Json.number.inj (Run.pure_inj h))
  · rintro rfl
    rfl

namespace Catalog

/-- The value that an operation gives, whose body has the value `result`. -/
def Entry.outcome (entry : Entry) (value : Json) (arguments : List Json) (result : Json) : Json :=
  if entry.propagatesNull && (value.isNull || arguments.any Json.isNull) then .null else result

/-- A registered operation gives what its body computes. -/
theorem Entry.registered_of_run {entry : Entry} {value result : Json} {arguments : List Json}
    (h : entry.body.run value arguments = .ok result) :
    entry.registered value arguments = pure (entry.outcome value arguments result) := by
  have hoperation : entry.operation value arguments = pure result := by
    simp only [operation, h]
  unfold registered outcome
  cases entry.propagatesNull with
  | false => exact hoperation
  | true =>
    rw [if_pos rfl, Operation.maybe, hoperation, Bool.true_and]
    split <;> rfl

/-- What the body computes is the value of the operation when nothing is null. -/
theorem Entry.outcome_of_ne_null (entry : Entry) {value : Json} {arguments : List Json}
    (hvalue : value ≠ .null) (harguments : ∀ argument ∈ arguments, argument ≠ .null)
    (result : Json) : entry.outcome value arguments result = result := by
  have hany : arguments.any Json.isNull = false := by
    rw [List.any_eq_false]
    intro argument hargument
    rw [Json.isNull_eq_false_iff.mpr (harguments argument hargument)]
    nofun
  rw [outcome, hany, Json.isNull_eq_false_iff.mpr hvalue, Bool.or_false, Bool.and_false,
    if_neg Bool.false_ne_true]

end Catalog

namespace Registry

/-- Registries that agree on some names agree on fewer of them. -/
theorem AgreeOn.mono {names names' : Set String} {r r' : Registry} (h : AgreeOn names r r')
    (hnames : names' ⊆ names) : AgreeOn names' r r' :=
  fun name hname => h name (hnames hname)

/-- The standard registry agrees with the catalog but for the operation on files. -/
theorem agreeOn_standard {names : Set String} (h : "enumFileChange" ∉ names) :
    AgreeOn names catalog standard := by
  intro name hname
  have hne : "enumFileChange" ≠ name := fun heq => h (heq ▸ hname)
  rw [operation?_standard, if_neg hne]

section Entries

variable {names : Set String} {r : Registry} (hr : AgreeOn names catalog r)

include hr

/-- A registry that agrees with the catalog holds the operations of the catalog. -/
theorem AgreeOn.operation?_of_mem {entry : Entry} (h : entry ∈ entries)
    (hname : entry.name ∈ names) : r.operation? entry.name = some entry.registered := by
  rw [← hr entry.name hname, operation?_catalog_of_mem h]

/-- An operation of the catalog gives what its body computes. -/
theorem AgreeOn.applyOperation_entry {entry : Entry} (h : entry ∈ entries)
    (hname : entry.name ∈ names) {value result : Json} {arguments : List Json}
    (hrun : entry.body.run value arguments = .ok result) (location : String) :
    applyOperation r value entry.name arguments location =
      pure (entry.outcome value arguments result) := by
  unfold applyOperation
  rw [hr.operation?_of_mem h hname]
  dsimp only
  rw [Entry.registered_of_run hrun, Run.mapError_pure]

/-- An operation of the catalog gives what its body computes when nothing is null. -/
theorem AgreeOn.applyOperation_of_ne_null {entry : Entry} (h : entry ∈ entries)
    (hname : entry.name ∈ names) {value result : Json} {arguments : List Json}
    (hvalue : value ≠ .null) (harguments : ∀ argument ∈ arguments, argument ≠ .null)
    (hrun : entry.body.run value arguments = .ok result) (location : String) :
    applyOperation r value entry.name arguments location = pure result := by
  rw [hr.applyOperation_entry h hname hrun, entry.outcome_of_ne_null hvalue harguments]

/-- An operation that takes no arguments, on a value other than null. -/
theorem AgreeOn.applyOperation_alone {name : String} {propagates : Bool} {f : Json → Json}
    (h : ⟨name, propagates, .alone f⟩ ∈ entries) (hname : name ∈ names) {value : Json}
    (hvalue : value ≠ .null) (location : String) :
    applyOperation r value name [] location = pure (f value) :=
  hr.applyOperation_of_ne_null h hname hvalue (List.forall_mem_nil _) rfl location

/-- An operation that takes one argument, on values other than null. -/
theorem AgreeOn.applyOperation_withOne {name : String} {propagates : Bool}
    {f : Json → Json → Json} (h : ⟨name, propagates, .withOne f⟩ ∈ entries) (hname : name ∈ names)
    {value argument : Json} (hvalue : value ≠ .null) (hargument : argument ≠ .null)
    (location : String) :
    applyOperation r value name [argument] location = pure (f value argument) :=
  hr.applyOperation_of_ne_null h hname hvalue (List.forall_mem_singleton.mpr hargument) rfl location

/-- An operation that takes one argument and computes null from null, on any values. -/
theorem AgreeOn.applyOperation_withOne_of_null {name : String} {propagates : Bool}
    {f : Json → Json → Json} (h : ⟨name, propagates, .withOne f⟩ ∈ entries) (hname : name ∈ names)
    (hleft : ∀ argument, f .null argument = .null) (hright : ∀ value, f value .null = .null)
    (value argument : Json) (location : String) :
    applyOperation r value name [argument] location = pure (f value argument) := by
  rw [hr.applyOperation_entry h hname (by rfl : Body.run (.withOne f) value [argument] = .ok _)]
  by_cases hvalue : value = .null
  · simp [hvalue, Entry.outcome, hleft]
  · by_cases hargument : argument = .null
    · simp [hargument, Entry.outcome, hright]
    · rw [Entry.outcome_of_ne_null _ hvalue (List.forall_mem_singleton.mpr hargument)]

end Entries

end Registry

end Reshape
