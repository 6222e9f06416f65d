import Reshape.Proofs.LoadedTables
import Reshape.Proofs.Progress
import Reshape.Proofs.TemplateNodes

/-!
# Places of errors

Errors arise at several depths: when an expression is scanned, in an operation, in a
callback, when a file is read.  Where the place is not known it stays open, and it is
filled in on the way out, by the expression or the call that is next.  A place that goes on
from the one that would be filled in is kept.

So every error of a transformation with the standard registry stands at the place of the
transformation or below it.

Main results:

- Theorem `Registry.isOpen_of_standard`: operations leave the place of their errors open.
- Theorem `evaluate_error`: errors of expressions, and the stages that raise them.
- Theorem `Transformer.standsBelow_of_transformWithin`: errors of transformations.
-/

namespace Reshape

open Catalog

/-! ## Places -/

namespace Error

/-- The place in a template that an error names.  Faults of paths have none, and that
templates are nested too deep is no fault of a place. -/
def templatePlace? : Error → Option String
  | malformed _ location => some location
  | unknownOperation _ location => some location
  | unknownFunction _ location => some location
  | invalidArguments _ location _ => some location
  | unreadableFile _ location => some location
  | invalidJson location => some location
  | invalidPath _ => none
  | nestedTooDeep _ => none

/-- A place that goes on from another one is not filled in with that one. -/
theorem fillIn_append (outer rest : String) : fillIn (outer ++ rest) outer = outer ++ rest := by
  unfold fillIn
  split
  · rename_i hempty
    rw [String.isEmpty_iff, String.append_eq_empty_iff] at hempty
    rw [hempty.1, hempty.2]
    rfl
  · rfl

/-- An error keeps a place that goes on from the one that would be filled in. -/
theorem located_of_templatePlace? {error : Error} {outer rest : String}
    (h : error.templatePlace? = some (outer ++ rest)) : error.located outer = error := by
  cases error with
  | invalidPath | nestedTooDeep => cases h
  | malformed | unknownOperation | unknownFunction | invalidArguments | unreadableFile
      | invalidJson =>
    obtain rfl := Option.some.inj h
    simp only [located, fillIn_append]

/-- An error that stands at a place or below it. -/
def StandsBelow (error : Error) (location : String) : Prop :=
  ∃ trail, error.templatePlace? = some (location ++ breadcrumb trail)

/-- An error stands at its place. -/
theorem standsBelow_of_templatePlace? {error : Error} {location : String}
    (h : error.templatePlace? = some location) : error.StandsBelow location :=
  ⟨[], by rw [h, breadcrumb, String.append_empty]⟩

/-- An error below a place that is itself below another one stands below that one. -/
theorem StandsBelow.of_append {error : Error} {location : String} {trail : List Step}
    (h : error.StandsBelow (location ++ breadcrumb trail)) : error.StandsBelow location := by
  obtain ⟨rest, h⟩ := h
  exact ⟨trail ++ rest, by rw [h, String.append_assoc, ← breadcrumb_append]⟩

/-- An error keeps a place at or below the one that would be filled in. -/
theorem StandsBelow.located_eq {error : Error} {location : String}
    (h : error.StandsBelow location) : error.located location = error := by
  obtain ⟨trail, h⟩ := h
  exact located_of_templatePlace? h

/-- A malformed template with a place keeps it. -/
theorem located_malformed (fault : Malformation) (location : String) :
    (malformed fault location).located location = malformed fault location :=
  (standsBelow_of_templatePlace? rfl).located_eq

/-- The errors of operations: the name and the place are left open. -/
inductive IsOpen : Error → Prop
  | arguments (fault : ArgumentFault) : IsOpen (.invalidArguments "" "" fault)
  | file (path : String) : IsOpen (.unreadableFile path "")
  | document : IsOpen (.invalidJson "")

/-- An open error is filled in with the operation and the place. -/
theorem IsOpen.raisedBy {error : Error} (h : error.IsOpen) (name location : String) :
    (error.raisedBy name location).templatePlace? = some location ∧
      ∀ operation place fault, error.raisedBy name location =
        .invalidArguments operation place fault → name = operation := by
  cases h with
  | arguments fault =>
    refine ⟨rfl, fun operation place fault' h => ?_⟩
    injection h
  | file path => exact ⟨rfl, fun operation place fault h => nomatch h⟩
  | document => exact ⟨rfl, fun operation place fault h => nomatch h⟩

end Error

/-! ## Operations -/

/-- Errors of reading a table are open. -/
theorem Tables.isOpen_of_read {files : Files} {path : String} {error : Error}
    (h : read files path = .error error) : error.IsOpen := by
  unfold read at h
  split at h
  · cases h
    exact .file path
  · split at h
    · cases h
      exact .document
    · cases h
    · cases h
      exact .arguments _

/-- Errors of loading a table are open. -/
theorem isOpen_of_loadTable {path : String} {error : Error}
    (h : (loadTable path).CanFail error) : error.IsOpen := by
  rcases h with ⟨tables, h⟩
  rcases loadTable_cases path tables with ⟨table, -, hrun⟩ |
    ⟨-, ⟨table, -, hrun⟩ | ⟨first, hread, hrun⟩⟩
  · rw [hrun] at h
    cases h
  · rw [hrun] at h
    cases h
  · rw [hrun] at h
    cases h
    exact Tables.isOpen_of_read hread

/-- Errors of looking up in a file are open. -/
theorem isOpen_of_lookupInFile {value : Json} {arguments : List Json} {error : Error}
    (h : (lookupInFile value arguments).CanFail error) : error.IsOpen := by
  unfold lookupInFile at h
  split at h
  · rcases h.of_bind with h | ⟨table, -, h⟩
    · exact isOpen_of_loadTable h
    · exact (Run.not_canFail_pure _ _ h).elim
  · obtain rfl := (Run.canFail_throw_iff _ _).mp h
    exact .arguments _
  · obtain rfl := (Run.canFail_throw_iff _ _).mp h
    exact .arguments _

/-- Null propagation raises no errors of its own. -/
theorem Operation.canFail_of_maybe {operation : Operation} {value : Json}
    {arguments : List Json} {error : Error} (h : (operation.maybe value arguments).CanFail error) :
    (operation value arguments).CanFail error := by
  unfold Operation.maybe at h
  split at h
  · exact (Run.not_canFail_pure _ _ h).elim
  · exact h

/-- Errors of entries are open. -/
theorem Catalog.Entry.isOpen_of_registered {entry : Entry} {value : Json}
    {arguments : List Json} {error : Error}
    (h : (entry.registered value arguments).CanFail error) : error.IsOpen := by
  have hoperation (h : (entry.operation value arguments).CanFail error) : error.IsOpen := by
    unfold Entry.operation at h
    split at h
    · exact (Run.not_canFail_pure _ _ h).elim
    · obtain rfl := (Run.canFail_throw_iff _ _).mp h
      exact .arguments _
  unfold Entry.registered at h
  split at h
  · exact hoperation (Operation.canFail_of_maybe h)
  · exact hoperation h

/-- Errors of the operations of the standard registry are open. -/
theorem Registry.isOpen_of_standard {name : String} {operation : Operation}
    (hoperation : standard.operation? name = some operation) {value : Json}
    {arguments : List Json} {error : Error} (h : (operation value arguments).CanFail error) :
    error.IsOpen := by
  rw [operation?_standard] at hoperation
  split at hoperation
  · obtain rfl := Option.some.inj hoperation
    exact isOpen_of_lookupInFile (Operation.canFail_of_maybe h)
  · rcases exists_entry_of_operation?_catalog hoperation with ⟨entry, -, -, rfl⟩
    exact entry.isOpen_of_registered h

/-- An error of an operation by name stands at the place, and if its arguments are invalid
it bears the name. -/
theorem applyOperation_error {value : Json} {name : String} {arguments : List Json}
    {location : String} {error : Error}
    (h : (applyOperation .standard value name arguments location).CanFail error) :
    error.templatePlace? = some location ∧
      ∀ operation place fault, error = .invalidArguments operation place fault →
        name = operation := by
  unfold applyOperation at h
  split at h
  · rename_i operation hoperation
    rcases h.of_mapError with ⟨inner, hinner, rfl⟩
    exact (Registry.isOpen_of_standard hoperation hinner).raisedBy name location
  · split at h
    · exact (Run.not_canFail_pure _ _ h).elim
    · split at h
      · split at h
        · exact (Run.not_canFail_pure _ _ h).elim
        · obtain rfl := (Run.canFail_throw_iff _ _).mp h
          exact ⟨rfl, fun operation place fault h => nomatch h⟩
      · obtain rfl := (Run.canFail_throw_iff _ _).mp h
        exact ⟨rfl, fun operation place fault h => nomatch h⟩

/-! ## Expressions -/

/-- Stages that fail do so at one that is empty, or whose operation fails on the value and
the tables that the stages in front of it leave. -/
theorem runStages_error {r : Registry} {source : Json} {location : String} {prior : Segment}
    {value : Json} {stages : List Segment} {tables after : Tables} {error : Error}
    (h : (runStages r source location prior value stages).on tables = (.error error, after)) :
    ∃ front stage back value' between, stages = front ++ stage :: back ∧
      (runStages r source location prior value front).on tables = (.ok value', between) ∧
      ((∃ fault, error = .malformed fault location) ∨
        ∃ name arguments, stage = name :: arguments ∧
          (applyOperation r value' name.text
            (arguments.map fun token => resolveArgument token.text source) location).on between =
              (.error error, after)) := by
  induction stages generalizing prior value tables with
  | nil => cases h
  | cons stage stages ih =>
    cases stage with
    | nil =>
      rw [runStages, Run.on_throw] at h
      cases h
      exact ⟨[], [], stages, value, after, rfl, rfl, .inl ⟨_, rfl⟩⟩
    | cons name arguments =>
      rw [runStages] at h
      rcases Run.on_bind_eq_error_iff.mp h with h | ⟨next, tables', hnext, h⟩
      · exact ⟨[], name :: arguments, stages, value, tables, rfl, rfl,
          .inr ⟨name, arguments, rfl, h⟩⟩
      · rcases ih h with ⟨front, stage, back, value', between, rfl, hfront, hstage⟩
        refine ⟨(name :: arguments) :: front, stage, back, value', between, rfl, ?_, hstage⟩
        rw [runStages, Run.on_bind, hnext]
        exact hfront

/-- An operation in an expression raises an error on tables: the stages in front of it come to
a value, on which it fails. -/
def RaisedByOperation (source : Json) (text location operation : String) (tables : Tables)
    (error : Error) (after : Tables) : Prop :=
  ∃ selector front name arguments back value between,
    Segment.scan text = .ok (selector :: (front ++ (name :: arguments) :: back)) ∧
    name.text = operation ∧
    (runStages .standard source location selector (startValue source selector) front).on tables =
      (.ok value, between) ∧
    (applyOperation .standard value operation
      (arguments.map fun token => resolveArgument token.text source) location).on between =
        (.error error, after)

/-- An error of an expression stands at its place, and if arguments are invalid it bears
the name of the operation that raised it. -/
theorem evaluate_error {source : Json} {text location : String} {tables after : Tables}
    {error : Error}
    (h : (evaluate .standard source text location).on tables = (.error error, after)) :
    error.templatePlace? = some location ∧
      ∀ operation place fault, error = .invalidArguments operation place fault →
        RaisedByOperation source text location operation tables error after := by
  by_cases hne : text = ""
  · subst hne
    cases h
  · rcases Segment.scan_cases text with ⟨fault, hscan⟩ | ⟨selector, stages, hscan⟩
    · rw [evaluate_of_error _ source location hscan, Run.on_throw] at h
      cases h
      exact ⟨rfl, fun operation place fault h => nomatch h⟩
    · rw [evaluate_of_segments _ source location hne hscan] at h
      rcases runStages_error h with ⟨front, stage, back, value, between, rfl, hfront,
        ⟨fault, rfl⟩ | ⟨name, arguments, rfl, hstage⟩⟩
      · exact ⟨rfl, fun operation place fault h => nomatch h⟩
      · rcases applyOperation_error ⟨between, congrArg Prod.fst hstage⟩ with ⟨hplace, hname⟩
        refine ⟨hplace, fun operation place fault herror => ?_⟩
        obtain rfl := hname operation place fault herror
        exact ⟨selector, front, name, arguments, back, value, between, hscan, rfl, hfront,
          hstage⟩

/-- An error that an expression can come to stands at its place. -/
theorem templatePlace?_of_evaluate {source : Json} {text location : String} {error : Error}
    (h : (evaluate .standard source text location).CanFail error) :
    error.templatePlace? = some location := by
  rcases h with ⟨tables, h⟩
  exact (evaluate_error (Prod.ext h rfl)).1

/-! ## Nested records -/

/-- The trail through nested arrays by indexes. -/
def itemTrail (indexes : List Nat) : List Step :=
  indexes.map .item

namespace Template

/-- The call that an object stands for is malformed, if it is an error. -/
theorem malformed_of_callOfFields {fields : Fields Json} {error : Error}
    (h : callOfFields fields = .error error) : ∃ fault, error = .malformed fault "" := by
  have hmarked {key : String} (h : markedString key fields = .error error) :
      ∃ fault, error = .malformed fault "" := by
    unfold markedString at h
    split at h
    · cases h
    · exact ⟨_, (Except.error.inj h).symm⟩
  rcases eq_error_of_bind h with h | ⟨source, -, h⟩
  · exact hmarked h
  · rcases eq_error_of_bind h with h | ⟨name, -, h⟩
    · exact hmarked h
    · cases h

mutual

/-- A value that is not read as a template is malformed. -/
theorem malformed_of_ofConfig {config : Json} {error : Error}
    (h : ofConfig config = .error error) : ∃ fault, error = .malformed fault "" := by
  cases config with
  | object fields =>
    rw [ofConfig] at h
    split at h
    · exact malformed_of_callOfFields h
    · exact malformed_of_ofConfigFields (eq_error_of_map h)
  | array items => exact malformed_of_ofConfigItems (eq_error_of_map h)
  | null | bool | number | string => cases h

/-- Items that are not read as templates are malformed. -/
theorem malformed_of_ofConfigItems {items : List Json} {error : Error}
    (h : ofConfigItems items = .error error) : ∃ fault, error = .malformed fault "" := by
  cases items with
  | nil => cases h
  | cons item items =>
    rw [ofConfigItems] at h
    rcases eq_error_of_bind h with h | ⟨template, -, h⟩
    · exact malformed_of_ofConfig h
    · rcases eq_error_of_bind h with h | ⟨others, -, h⟩
      · exact malformed_of_ofConfigItems h
      · cases h

/-- Fields that are not read as templates are malformed. -/
theorem malformed_of_ofConfigFields {fields : List (String × Json)} {error : Error}
    (h : ofConfigFields fields = .error error) : ∃ fault, error = .malformed fault "" := by
  cases fields with
  | nil => cases h
  | cons field fields =>
    rcases field with ⟨name, value⟩
    rw [ofConfigFields] at h
    rcases eq_error_of_bind h with h | ⟨template, -, h⟩
    · exact malformed_of_ofConfig h
    · rcases eq_error_of_bind h with h | ⟨others, -, h⟩
      · exact malformed_of_ofConfigFields h
      · cases h

end

/-- The parts of a template nest calls no deeper than the template. -/
theorem callDepth_le_of_mem_parts {template : Template} {part : Step × Template}
    (h : part ∈ template.parts) : part.2.callDepth ≤ template.callDepth := by
  cases template with
  | mapping fields =>
    rcases List.mem_map.mp h with ⟨field, hfield, rfl⟩
    exact callDepth_le_callDepthFields hfield
  | sequence items =>
    rcases List.mem_map.mp h with ⟨item, hitem, rfl⟩
    exact callDepth_le_callDepthItems (List.fst_mem_of_mem_zipIdx hitem)
  | expression | call | literal => cases h

/-- The nodes of a template nest calls no deeper than the template. -/
theorem HasNode.callDepth_le {template node : Template} {trail : List Step}
    (h : template.HasNode trail node) : node.callDepth ≤ template.callDepth := by
  induction h with
  | root => exact Nat.le_refl _
  | part hpart _ ih => exact ih.trans (callDepth_le_of_mem_parts hpart)

end Template

section Records

variable {transform : Json → Template → String → Run Json} {template : Template} {error : Error}

mutual

/-- When the records in a value fail, one of them does, at the place of its indexes. -/
theorem exists_record_of_transformRecords {value : Json} {location : String}
    (h : (transformRecords transform template location value).CanFail error) :
    ∃ indexes fields, value.partAt? (itemTrail indexes) = some (.object fields) ∧
      (transform (.object fields) template
        (location ++ breadcrumb (itemTrail indexes))).CanFail error := by
  cases value with
  | object fields =>
    rw [transformRecords] at h
    exact ⟨[], fields, rfl, by simpa [itemTrail, breadcrumb] using h⟩
  | array items =>
    rw [transformRecords] at h
    rcases h.of_bind with h | ⟨values, -, h⟩
    · rcases exists_record_of_transformItems h with
        ⟨index, item, indexes, fields, hitem, hrecord, h⟩
      refine ⟨index :: indexes, fields, ?_, ?_⟩
      · rw [itemTrail, List.map_cons, Json.partAt?_cons, Json.part?, hitem]
        exact hrecord
      · rw [Nat.zero_add] at h
        rwa [itemTrail, List.map_cons, ← placeIn_append_breadcrumb]
    · exact (Run.not_canFail_pure _ _ h).elim
  | null | bool | number | string => exact (Run.not_canFail_pure _ _ h).elim

/-- When the records in items fail, one of them does, at the place of its indexes. -/
theorem exists_record_of_transformItems {items : List Json} {location : String} {start : Nat}
    (h : (transformItems transform template location start items).CanFail error) :
    ∃ index item indexes fields, items[index]? = some item ∧
      item.partAt? (itemTrail indexes) = some (.object fields) ∧
      (transform (.object fields) template (placeIn location (toString (start + index)) ++
        breadcrumb (itemTrail indexes))).CanFail error := by
  cases items with
  | nil => exact (Run.not_canFail_pure _ _ h).elim
  | cons item items =>
    rw [transformItems] at h
    rcases h.of_bind with h | ⟨value, -, h⟩
    · rcases exists_record_of_transformRecords h with ⟨indexes, fields, hrecord, h⟩
      exact ⟨0, item, indexes, fields, rfl, hrecord, h⟩
    · rcases h.of_bind with h | ⟨values, -, h⟩
      · rcases exists_record_of_transformItems h with
          ⟨index, other, indexes, fields, hother, hrecord, h⟩
        refine ⟨index + 1, other, indexes, fields, hother, hrecord, ?_⟩
        rwa [Nat.add_right_comm] at h
      · exact (Run.not_canFail_pure _ _ h).elim

end

end Records

namespace Transformer

/-! ## Transformations -/

section Callbacks

variable {source value : Json} {location text function : String} {parameters : Fields Json}
  {engine : Engine} {error : Error}

/-- Errors of the records that a call transforms with the template of its parameter stand at the
places of the records or below them. -/
def NestedStandBelow (parameters : Fields Json) (engine : Engine) : Prop :=
  ∀ config nested, (Fields.get? "template" parameters).or (Fields.get? "config_json" parameters) =
    some config → Template.ofConfig config = .ok nested →
    ∀ source place error, (engine.transform source nested place).CanFail error →
      error.StandsBelow place

/-- An error of the callback for nested records is placed at the call or below it. -/
theorem standsBelow_of_recordsCallback (hnested : NestedStandBelow parameters engine)
    (h : (recordsCallback value ⟨parameters, location, engine⟩).CanFail error) :
    (error.located location).StandsBelow location := by
  unfold recordsCallback Invocation.eitherParameter? Invocation.parameter? at h
  split at h
  · obtain rfl := (Run.canFail_throw_iff _ _).mp h
    rw [Error.located_malformed]
    exact Error.standsBelow_of_templatePlace? rfl
  · rename_i config hconfig
    rcases h.of_bind with h | ⟨nested, hread, h⟩
    · obtain ⟨fault, rfl⟩ := Template.malformed_of_ofConfig ((Run.canFail_ofExcept_iff _ _).mp h)
      exact Error.standsBelow_of_templatePlace? rfl
    · obtain ⟨indexes, fields, -, hrecord⟩ := exists_record_of_transformRecords h
      have hbelow := (hnested config nested hconfig ((Run.canYield_ofExcept_iff _ _).mp hread)
        _ _ error hrecord).of_append
      rwa [hbelow.located_eq]

/-- An error of the callback for lookup tables is placed at the call. -/
theorem standsBelow_of_lookupCallback
    (h : (lookupCallback value ⟨parameters, location, engine⟩).CanFail error) :
    (error.located location).StandsBelow location := by
  unfold lookupCallback Invocation.eitherParameter? Invocation.parameter? at h
  split at h
  · obtain rfl := (Run.canFail_throw_iff _ _).mp h
    rw [Error.located_malformed]
    exact Error.standsBelow_of_templatePlace? rfl
  · exact (Run.not_canFail_pure _ _ h).elim

/-- An error of a call stands at its place or below it. -/
theorem standsBelow_of_walk_call (hnested : NestedStandBelow parameters engine)
    (h : (walk .standard engine source location (.call text function parameters)).CanFail error) :
    error.StandsBelow location := by
  rw [walk] at h
  split at h
  · obtain rfl := (Run.canFail_throw_iff _ _).mp h
    exact Error.standsBelow_of_templatePlace? rfl
  · rename_i callback hcallback
    rcases h.of_bind with h | ⟨value, -, h⟩
    · exact Error.standsBelow_of_templatePlace? (templatePlace?_of_evaluate h)
    · obtain ⟨inner, hinner, rfl⟩ := h.of_mapError
      rcases Registry.callback?_standard_cases hcallback with ⟨-, rfl⟩ | ⟨-, rfl⟩
      · exact standsBelow_of_recordsCallback hnested hinner
      · exact standsBelow_of_lookupCallback hinner

end Callbacks

/-- Within a budget that calls do not use up, an error stands at the place of the
transformation or below it. -/
theorem standsBelow_of_transformWithin (mode : Mode) {budget : Nat} {source : Json}
    {template : Template} {location : String} {error : Error} (hdepth : template.callDepth < budget)
    (h : (transformWithin ⟨.standard, mode⟩ budget source template location).CanFail error) :
    error.StandsBelow location := by
  induction budget generalizing source template location error with
  | zero => contradiction
  | succ budget ih =>
    rw [transformWithin] at h
    obtain ⟨trail, node, text, hnode, htext, h⟩ := exists_node_of_walk_canFail _ _ _ _ h
    have hbelow : error.StandsBelow (location ++ breadcrumb trail) := by
      cases node with
      | mapping | sequence | literal => cases htext
      | expression text =>
        rw [walk] at h
        exact Error.standsBelow_of_templatePlace? (templatePlace?_of_evaluate h)
      | call text function parameters =>
        apply standsBelow_of_walk_call _ h
        intro config nested hconfig hread source place error
        -- The nested template is read from a parameter, so it lies below the call.
        have hread_le := Template.callDepth_le_depth hread
        have hconfig_le := depth_le_of_either hconfig
        have hnode_le := hnode.callDepth_le
        rw [Template.callDepth] at hnode_le
        exact ih (by omega)
    exact hbelow.of_append

end Transformer

end Reshape
