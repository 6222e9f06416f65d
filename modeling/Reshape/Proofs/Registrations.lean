import Reshape.Builder
import Reshape.Proofs.NamedOperations
import Reshape.Proofs.NullPropagation
import Reshape.Proofs.ValueGrammar

/-!
# Histories of registrations

Registries are made, copied and registered on in many ways: in place, by value, by a builder, and
by whatever a builder lets others install.  All of them come to a run of registrations, so each
registry is the empty one after its history.  The history of a copy is that of its original up to
the time when it is made, and goes on by itself.

Operations and callbacks are two tables of their own, and each holds under a name what the history
registered last under it.

Main results:

- Definition `Registry.IsTable`: the two tables of a registry.
- Definition `Registry.LastCounts`: what is found in a registry is what was registered last.
- Theorem `Registry.lastCounts_extend`: so it is in the empty registry after its history.
- Definitions `Shelf.run`, `Shelf.histories`: registries that are made, copied and registered on,
  and their histories.
- Theorem `Shelf.run_eq_map_histories`: each registry is the empty one after its history.
- Theorem `Shelf.bookkeeping`: what is found in the registries, and what leaves them alone.
-/

namespace Reshape

/-! ## Collected fields -/

namespace Fields

variable {α β : Type} {name : String} {value : α} {fields : Fields α}

/-- Something is found under the names of the fields. -/
theorem mem_names_iff : name ∈ names fields ↔ (get? name fields).isSome := by
  rw [← Option.ne_none_iff_isSome, ne_eq, get?_eq_none_iff, names, List.mem_map]
  simp

section Collects

variable {field? : β → Option (String × α)}

/-- What is collected last under a name is found. -/
theorem Collects.get?_of_last {front back : List β} {x : β}
    (h : Collects ((front ++ x :: back).filterMap field?) fields)
    (hx : field? x = some (name, value))
    (hback : ∀ y ∈ back, (field? y).map Prod.fst ≠ some name) : get? name fields = some value := by
  have hnone : get? name (back.filterMap field?).reverse = none := by
    refine get?_eq_none_iff.mpr fun field hfield hname => ?_
    obtain ⟨y, hy, hcollected⟩ := List.mem_filterMap.mp (List.mem_reverse.mp hfield)
    exact hback y hy (by rw [hcollected, Option.map_some, hname])
  rw [h.2, List.filterMap_append, List.filterMap_cons_some hx, List.reverse_append,
    List.reverse_cons, List.append_assoc, get?_append, hnone, Option.none_or]
  simp [get?]

/-- Something is found under the names that something is collected under. -/
theorem Collects.isSome_get?_iff {xs : List β} (h : Collects (xs.filterMap field?) fields) :
    (get? name fields).isSome ↔ ∃ x ∈ xs, (field? x).map Prod.fst = some name := by
  rw [← Option.ne_none_iff_isSome, h.2, ne_eq, get?_eq_none_iff]
  simp only [List.mem_reverse, List.mem_filterMap, not_forall, not_not, Option.map_eq_some_iff]
  constructor
  · rintro ⟨field, ⟨x, hx, hfield⟩, hname⟩
    exact ⟨x, hx, field, hfield, hname⟩
  · rintro ⟨x, hx, field, hfield, hname⟩
    exact ⟨field, ⟨x, hx, hfield⟩, hname⟩

end Collects

end Fields

/-! ## Registrations -/

namespace Registration

/-- The operation that is found after a registration, with its name. -/
def operationField? : Registration → Option (String × Operation)
  | .operation name f => some (name, f)
  | .maybe name f => some (name, f.maybe)
  | .callback _ _ => none

/-- The callback that is found after a registration, with its name. -/
def callbackField? : Registration → Option (String × Callback)
  | .callback name f => some (name, f)
  | _ => none

/-- The name under which a callback is registered. -/
def callbackName? : Registration → Option String
  | .callback name _ => some name
  | _ => none

/-- An operation is found under the name of its registration. -/
theorem map_operationField? (registration : Registration) :
    registration.operationField?.map Prod.fst = registration.operationName? := by
  cases registration <;> rfl

/-- A callback is found under the name of its registration. -/
theorem map_callbackField? (registration : Registration) :
    registration.callbackField?.map Prod.fst = registration.callbackName? := by
  cases registration <;> rfl

end Registration

namespace Registry

/-! ## Tables -/

/-- One of the tables of a registry: it starts without fields, and a registration sets the field
that it gives for the table, if it gives one. -/
structure IsTable {α : Type} (table : Registry → Fields α)
    (field? : Registration → Option (String × α)) : Prop where
  empty : table empty = []
  add : ∀ r registration, table (r.add registration) =
    match field? registration with
    | some (name, value) => (table r).set name value
    | none => table r

/-- Operations are a table. -/
theorem isTable_operations : IsTable operations Registration.operationField? :=
  ⟨rfl, fun _ registration => by cases registration <;> rfl⟩

/-- Callbacks are a table. -/
theorem isTable_callbacks : IsTable callbacks Registration.callbackField? :=
  ⟨rfl, fun _ registration => by cases registration <;> rfl⟩

section Tables

variable {α : Type} {table : Registry → Fields α} {field? : Registration → Option (String × α)}
  (h : IsTable table field?)

include h

/-- After a history a table holds the fields that the history gives for it. -/
theorem IsTable.extend_eq_ofList (history : List Registration) :
    table (Registry.empty.extend history) = Fields.ofList (history.filterMap field?) := by
  induction history using List.reverseRecOn with
  | nil => exact h.empty
  | append_singleton history registration ih =>
    rw [extend_append, extend, List.foldl_cons, List.foldl_nil, h.add, ih, List.filterMap_append]
    cases hfield : field? registration <;> simp [Fields.ofList, hfield]

/-- It holds the last one under each name. -/
theorem IsTable.collects (history : List Registration) :
    Fields.Collects (history.filterMap field?) (table (Registry.empty.extend history)) := by
  rw [h.extend_eq_ofList]
  exact Fields.collects_ofList _

/-- Registrations that give no field for a table make no difference to it. -/
theorem IsTable.extend_filter (history : List Registration) :
    table (Registry.empty.extend
      (history.filter fun registration => ((field? registration).map Prod.fst).isSome)) =
      table (Registry.empty.extend history) := by
  rw [h.extend_eq_ofList, h.extend_eq_ofList, List.filterMap_filter]
  congr 1
  refine List.filterMap_congr fun registration _ => ?_
  cases field? registration <;> rfl

end Tables

/-! ## Last registrations -/

/-- What is found in a registry is what its history registered last. -/
structure LastCounts (history : List Registration) (r : Registry) : Prop where
  /-- An operation that is registered last under its name is found as it is. -/
  operation : ∀ front name f back, history = front ++ .operation name f :: back →
    (∀ later ∈ back, later.operationName? ≠ some name) → r.operation? name = some f
  /-- One with null propagation is found with it, whatever stood under its name before. -/
  maybe : ∀ front name f back, history = front ++ .maybe name f :: back →
    (∀ later ∈ back, later.operationName? ≠ some name) →
    ∃ found, r.operation? name = some found ∧ ∀ value arguments, found value arguments =
      if value = .null ∨ .null ∈ arguments then pure .null else f value arguments
  /-- A callback that is registered last under its name is found. -/
  callback : ∀ front name f back, history = front ++ .callback name f :: back →
    (∀ later ∈ back, later.callbackName? ≠ some name) → r.callback? name = some f
  /-- Operations are found under the names of registered operations. -/
  isSome_operation? : ∀ name, (r.operation? name).isSome ↔
    ∃ registration ∈ history, registration.operationName? = some name
  /-- Callbacks are found under the names of registered callbacks. -/
  isSome_callback? : ∀ name, (r.callback? name).isSome ↔
    ∃ registration ∈ history, registration.callbackName? = some name
  /-- The operations are the same without the registrations of callbacks. -/
  operations : r.operations =
    (empty.extend (history.filter (·.operationName?.isSome))).operations
  /-- The callbacks are the same without the registrations of operations. -/
  callbacks : r.callbacks =
    (empty.extend (history.filter (·.callbackName?.isSome))).callbacks
  /-- The registry contains the names under which operations are found. -/
  contains : ∀ name, r.contains name ↔ (r.operation? name).isSome
  /-- They are all its names. -/
  mem_names : ∀ name, name ∈ r.names ↔ (r.operation? name).isSome
  /-- The names ascend strictly. -/
  names_ascending : r.names.Pairwise (· < ·)

/-- The operation that is registered last under its name is found. -/
theorem operation?_of_last {front back : List Registration} {registration : Registration}
    {name : String} {f : Operation} (hfield : registration.operationField? = some (name, f))
    (hback : ∀ later ∈ back, later.operationName? ≠ some name) :
    (empty.extend (front ++ registration :: back)).operation? name = some f := by
  simp only [← Registration.map_operationField?] at hback
  exact (isTable_operations.collects _).get?_of_last hfield hback

/-- In the empty registry after a history the last registrations count. -/
theorem lastCounts_extend (history : List Registration) :
    LastCounts history (empty.extend history) where
  operation front name f back hhistory hback := by
    rw [hhistory]
    exact operation?_of_last rfl hback
  maybe front name f back hhistory hback := by
    rw [hhistory]
    exact ⟨f.maybe, operation?_of_last rfl hback, f.maybe_eq_ite⟩
  callback front name f back hhistory hback := by
    simp only [← Registration.map_callbackField?] at hback
    rw [hhistory]
    exact (isTable_callbacks.collects _).get?_of_last rfl hback
  isSome_operation? name := by
    simp only [← Registration.map_operationField?]
    exact (isTable_operations.collects history).isSome_get?_iff
  isSome_callback? name := by
    simp only [← Registration.map_callbackField?]
    exact (isTable_callbacks.collects history).isSome_get?_iff
  operations := by
    simp only [← Registration.map_operationField?]
    exact (isTable_operations.extend_filter history).symm
  callbacks := by
    simp only [← Registration.map_callbackField?]
    exact (isTable_callbacks.extend_filter history).symm
  contains _ := Iff.rfl
  mem_names _ := Fields.mem_names_iff
  names_ascending := List.pairwise_map.mpr (isTable_operations.collects history).1

end Registry

/-! ## Ways to register -/

/-- The ways to register on a registry. -/
inductive Registry.Call where
  | register (name : String) (f : Operation)
  | registerMaybe (name : String) (f : Operation)
  | insert (name : String) (f : Operation)
  | registerCallback (name : String) (f : Callback)
  | withOperation (name : String) (f : Operation)
  | withMaybe (name : String) (f : Operation)
  | withCallback (name : String) (f : Callback)

namespace Registry.Call

/-- The registry after a call. -/
def run (r : Registry) : Call → Registry
  | register name f => r.register name f
  | registerMaybe name f => r.registerMaybe name f
  | insert name f => r.insert name f
  | registerCallback name f => r.registerCallback name f
  | withOperation name f => r.withOperation name f
  | withMaybe name f => r.withMaybe name f
  | withCallback name f => r.withCallback name f

/-- What a call registers. -/
def registration : Call → Registration
  | register name f | insert name f | withOperation name f => .operation name f
  | registerMaybe name f | withMaybe name f => .maybe name f
  | registerCallback name f | withCallback name f => .callback name f

/-- A call makes one registration. -/
theorem run_eq_add (r : Registry) (call : Call) : run r call = r.add call.registration := by
  cases call <;> rfl

/-- Calls make registrations from first to last. -/
theorem foldl_run (r : Registry) (calls : List Call) :
    calls.foldl run r = r.extend (calls.map registration) := by
  rw [extend, List.foldl_map]
  congr 1
  funext r call
  exact run_eq_add r call

end Registry.Call

/-- The ways to go on with a builder. -/
inductive Builder.Call where
  | withMode (mode : Mode)
  | register (name : String) (f : Operation)
  | registerMaybe (name : String) (f : Operation)
  | registerCallback (name : String) (f : Callback)
  | extend (calls : List Registry.Call)

namespace Builder.Call

/-- The builder after a call. -/
def run (b : Builder) : Call → Builder
  | withMode mode => b.withMode mode
  | register name f => b.register name f
  | registerMaybe name f => b.registerMaybe name f
  | registerCallback name f => b.registerCallback name f
  | extend calls => b.extend fun r => calls.foldl Registry.Call.run r

/-- What a call registers. -/
def registrations : Call → List Registration
  | withMode _ => []
  | register name f => [.operation name f]
  | registerMaybe name f => [.maybe name f]
  | registerCallback name f => [.callback name f]
  | extend calls => calls.map Registry.Call.registration

/-- A call makes its registrations. -/
theorem registry_run (b : Builder) (call : Call) :
    (run b call).registry = b.registry.extend call.registrations := by
  cases call with
  | extend calls => exact Registry.Call.foldl_run b.registry calls
  | withMode | register | registerMaybe | registerCallback => rfl

/-- Calls make their registrations from first to last. -/
theorem registry_foldl_run (b : Builder) (calls : List Call) :
    (calls.foldl run b).registry = b.registry.extend (calls.flatMap registrations) := by
  induction calls generalizing b with
  | nil => rfl
  | cons call calls ih =>
    rw [List.foldl_cons, ih, registry_run, List.flatMap_cons, Registry.extend_append]

end Builder.Call

/-! ## Shelves -/

/-- What registries start from. -/
inductive Origin where
  | empty
  | catalog
  | standard

namespace Origin

/-- The registry to start from. -/
def registry : Origin → Registry
  | empty => .empty
  | catalog => .catalog
  | standard => .standard

/-- What it comes with. -/
def registrations : Origin → List Registration
  | empty => []
  | catalog => Catalog.entries.map Catalog.Entry.registration
  | standard => Catalog.entries.map Catalog.Entry.registration ++ Registry.collaborators

/-- Registries start as the empty one after what they come with. -/
theorem registry_eq_extend (origin : Origin) :
    origin.registry = Registry.empty.extend origin.registrations := by
  cases origin with
  | empty => rfl
  | catalog => rfl
  | standard => exact (Registry.extend_append .empty _ _).symm

end Origin

/-- What is done with registries, each of which is known by its number: one more is made, or copied
from another, or one is registered on, by itself or by a builder. -/
inductive Act where
  | make (origin : Origin)
  | clone (source : Nat)
  | call (target : Nat) (call : Registry.Call)
  | build (target : Nat) (calls : List Builder.Call)

/-- The registry that is registered on. -/
def Act.target? : Act → Option Nat
  | make _ | clone _ => none
  | call target _ | build target _ => some target

/-- Registries by their numbers. -/
abbrev Shelf := List Registry

namespace Shelf

/-- The registries after an act. -/
def act (shelf : Shelf) : Act → Shelf
  | .make origin => shelf ++ [origin.registry]
  | .clone source => shelf ++ shelf[source]?.toList
  | .call target call => shelf.modify target fun r => Registry.Call.run r call
  | .build target calls => shelf.modify target fun r =>
    (calls.foldl Builder.Call.run (Builder.standard.withRegistry r)).build.registry

/-- The registries after acts from first to last. -/
def run (acts : List Act) : Shelf :=
  acts.foldl act []

/-- The histories of registries after an act. -/
def record (histories : List (List Registration)) : Act → List (List Registration)
  | .make origin => histories ++ [origin.registrations]
  | .clone source => histories ++ histories[source]?.toList
  | .call target call => histories.modify target (· ++ [call.registration])
  | .build target calls => histories.modify target (· ++ calls.flatMap Builder.Call.registrations)

/-- The histories of registries after acts from first to last. -/
def histories (acts : List Act) : List (List Registration) :=
  acts.foldl record []

/-- Registrations go on with the history of a registry. -/
theorem modify_map_extend (histories : List (List Registration)) (target : Nat)
    (registrations : List Registration) {f : Registry → Registry}
    (h : ∀ r, f r = r.extend registrations) :
    (histories.map Registry.empty.extend).modify target f =
      (histories.modify target (· ++ registrations)).map Registry.empty.extend := by
  apply List.ext_getElem?
  intro index
  rw [List.getElem?_modify, List.getElem?_map, List.getElem?_map, List.getElem?_modify]
  cases histories[index]? with
  | none => rfl
  | some history =>
    by_cases htarget : target = index
    · simp [htarget, h, Registry.extend_append]
    · simp [htarget]

/-- An act goes on with the histories of the registries. -/
theorem act_map_extend (histories : List (List Registration)) (action : Act) :
    act (histories.map Registry.empty.extend) action =
      (record histories action).map Registry.empty.extend := by
  cases action with
  | make origin => rw [act, record, List.map_append, List.map_singleton, origin.registry_eq_extend]
  | clone source =>
    rw [act, record, List.map_append, List.getElem?_map]
    cases histories[source]? <;> rfl
  | call target call =>
    exact modify_map_extend histories target _ fun r => Registry.Call.run_eq_add r call
  | build target calls =>
    exact modify_map_extend histories target _ fun r => Builder.Call.registry_foldl_run _ calls

/-- Each registry is the empty one after its history. -/
theorem run_eq_map_histories (acts : List Act) :
    run acts = (histories acts).map Registry.empty.extend := by
  induction acts using List.reverseRecOn with
  | nil => rfl
  | append_singleton acts action ih =>
    have hrun : run (acts ++ [action]) = act (run acts) action := List.foldl_concat ..
    have hrecord : histories (acts ++ [action]) = record (histories acts) action :=
      List.foldl_concat ..
    rw [hrun, hrecord, ih, act_map_extend]

/-- An act leaves the registries alone that it does not register on. -/
theorem getElem?_act {shelf : Shelf} {action : Act} {index : Nat} {r : Registry}
    (h : shelf[index]? = some r) (htarget : action.target? ≠ some index) :
    (act shelf action)[index]? = some r := by
  have hlt : index < shelf.length := (List.getElem?_eq_some_iff.mp h).1
  cases action with
  | make | clone => rw [act, List.getElem?_append_left hlt, h]
  | call target | build target =>
    have hne : target ≠ index := fun heq => htarget (congrArg some heq)
    rw [act, List.getElem?_modify_ne _ _ hne, h]

/-- Acts leave the registries alone that they do not register on. -/
theorem getElem?_foldl_act {shelf : Shelf} {acts : List Act} {index : Nat} {r : Registry}
    (h : shelf[index]? = some r) (htarget : ∀ action ∈ acts, action.target? ≠ some index) :
    (acts.foldl act shelf)[index]? = some r := by
  induction acts generalizing shelf with
  | nil => exact h
  | cons action acts ih =>
    obtain ⟨hfirst, hrest⟩ := List.forall_mem_cons.mp htarget
    exact ih (getElem?_act h hfirst) hrest

/-- What is found in registries after acts, and what leaves them alone. -/
structure Bookkeeping (acts : List Act) : Prop where
  /-- In each registry the last registrations of its history count. -/
  last : List.Forall₂ Registry.LastCounts (histories acts) (run acts)
  /-- A registry stays as it is under acts that do not register on it. -/
  kept : ∀ front back index r, acts = front ++ back → (run front)[index]? = some r →
    (∀ action ∈ back, action.target? ≠ some index) → (run acts)[index]? = some r
  /-- So a copy stays what its original was, whatever is registered on the original. -/
  clones : ∀ front source back r, acts = front ++ .clone source :: back →
    (run front)[source]? = some r →
    (∀ action ∈ back, action.target? ≠ some (run front).length) →
    (run acts)[(run front).length]? = some r

/-- However registries are made, copied and registered on, in each of them the last registration
under a name counts, operations and callbacks are apart, the names are those of the operations in
ascending order, and no registration shows in another registry than its own. -/
theorem bookkeeping (acts : List Act) : Bookkeeping acts where
  last := by
    rw [run_eq_map_histories, List.forall₂_map_right_iff, List.forall₂_same]
    exact fun history _ => Registry.lastCounts_extend history
  kept front back index r hacts hr htarget := by
    rw [hacts, run, List.foldl_append]
    exact getElem?_foldl_act hr htarget
  clones front source back r hacts hr htarget := by
    rw [hacts, run, List.foldl_append, List.foldl_cons]
    refine getElem?_foldl_act ?_ htarget
    rw [act, ← run, hr, Option.toList_some, List.getElem?_concat_length]

/-- An operation with null propagation is copied.  In the original it is then replaced by one that
handles null itself, and a builder lets a callback be installed under its name. -/
def replacement : List Act :=
  [.make .empty, .call 0 (.registerMaybe "same" fun _ _ => throw (.invalidJson "")), .clone 0,
    .call 0 (.withOperation "same" fun value _ => pure value),
    .build 0 [.extend [.registerCallback "same" fun value _ => pure value]]]

/-- The copy keeps its operation and has no callback. -/
theorem bookkeeping_replacement :
    ∃ original copy, run replacement = [original, copy] ∧
      original.operation? "same" = some (fun value _ => pure value) ∧
      original.callback? "same" = some (fun value _ => pure value) ∧
      (∃ found, copy.operation? "same" = some found ∧ found .null [] = pure .null ∧
        found (.ofInt 1) [] = throw (.invalidJson "")) ∧
      ¬(copy.callback? "same").isSome ∧ "same" ∈ copy.names := by
  have hlast := (bookkeeping replacement).last
  have hhistories : histories replacement =
      [[.maybe "same" fun _ _ => throw (.invalidJson ""),
        .operation "same" fun value _ => pure value, .callback "same" fun value _ => pure value],
      [.maybe "same" fun _ _ => throw (.invalidJson "")]] := rfl
  rw [hhistories] at hlast
  generalize run replacement = shelf at hlast ⊢
  cases hlast with
  | cons hfirst hrest =>
    cases hrest with
    | cons hsecond hnil =>
      cases hnil
      obtain ⟨found, hfound, hcases⟩ := hsecond.maybe [] _ _ [] rfl (by simp)
      refine ⟨_, _, rfl, hfirst.operation [_] _ _ [_] rfl (by simp [Registration.operationName?]),
        hfirst.callback [_, _] _ _ [] rfl (by simp), ⟨found, hfound, ?_, ?_⟩, ?_, ?_⟩
      · simp [hcases]
      · simp [hcases, Json.ofInt]
      · simp [hsecond.isSome_callback?, Registration.callbackName?]
      · simp [hsecond.mem_names, hfound]

end Shelf

end Reshape
