import Mathlib.Order.MinMax
import Reshape.Proofs.IndexNames

/-!
# Progress

Only a broken template stops a transformation.  What a sound template is can be told
without a source: its expressions have named operations with a number of arguments that
they take, and its calls name a callback of the standard registry and bring the
parameter that it asks for.  Such a template gives a value on every source.

A call for nested records transforms with a template of its own, which is not a part of
the template it stands in.  So progress is an induction on the sound template, in which
a nested template is sound by hypothesis, and its bound on nested calls is smaller.

Main results:

- Definition `Template.WellFormed`: sound templates.
- Theorem `evaluate_settled`: sound expressions give a value.
- Theorem `Template.callDepth_le_depth`: a template that is read from a parameter has a
  smaller bound on nested calls than the call.
- Theorem `Transformer.transform_settled`: sound templates give a value.
-/

namespace Reshape

open Catalog

/-! ## Sound expressions -/

/-- The name of an index: digits, with or without a minus sign, in the range of 64 bits. -/
def IsIndexName (name : String) : Prop :=
  ∃ digits, digits ≠ [] ∧ (∀ c ∈ digits, c.isDigit) ∧
    (name.toList = digits ∧ isSigned64 (natOfDigits digits) ∨
      name.toList = '-' :: digits ∧ isSigned64 (-natOfDigits digits))

/-- The name of an index stands for one. -/
theorem exists_indexNamed? {name : String} (h : IsIndexName name) :
    ∃ index, indexNamed? name = some index := by
  rcases h with ⟨digits, hne, hdigits, ⟨hname, hrange⟩ | ⟨hname, hrange⟩⟩
  · have hinteger : IntegerName name (natOfDigits digits) := by
      rw [← String.ofList_toList (s := name), hname]
      exact .natural hne hdigits
    exact ⟨_, (indexNamed?_of_integerName hinteger).trans (if_pos hrange)⟩
  · have hinteger : IntegerName name (-natOfDigits digits) := by
      rw [← String.ofList_toList (s := name), hname]
      exact .negative hne hdigits
    exact ⟨_, (indexNamed?_of_integerName hinteger).trans (if_pos hrange)⟩

/-- A sound stage names an entry of the catalog and brings a number of arguments that it
takes, or is an index, or is a selector without arguments. -/
inductive Segment.WellFormed : Segment → Prop
  | catalog {entry : Entry} {name : Token} {arguments : List Token}
      (hmem : entry ∈ entries) (hname : name.text = entry.name)
      (htakes : entry.body.takes arguments.length) : WellFormed (name :: arguments)
  | index {name : Token} {arguments : List Token}
      (hnone : Registry.standard.operation? name.text = none)
      (hindex : IsIndexName name.text) : WellFormed (name :: arguments)
  | selector {name : Token} {path : List Char}
      (hnone : Registry.standard.operation? name.text = none)
      (hpath : name.text.toList = '.' :: path) : WellFormed [name]

/-- A sound expression is scanned, and every segment behind the first is a sound stage. -/
def IsWellFormedExpression (text : String) : Prop :=
  ∃ selector stages, Segment.scan text = .ok (selector :: stages) ∧
    ∀ stage ∈ stages, Segment.WellFormed stage

/-- A sound stage applies to every value. -/
theorem applyOperation_settled {name : Token} {arguments : List Token}
    (h : Segment.WellFormed (name :: arguments)) (value : Json) (resolve : Token → Json)
    (location : String) :
    (applyOperation .standard value name.text (arguments.map resolve) location).Settled := by
  unfold applyOperation
  cases h with
  | catalog hmem hname htakes =>
    rw [hname, Registry.operation?_standard_of_mem hmem]
    apply Run.Settled.mapError
    apply Entry.registered_eq_pure
    rwa [List.length_map]
  | index hnone hindex =>
    rcases exists_indexNamed? hindex with ⟨index, hindex⟩
    rw [hnone, hindex]
    exact Run.settled_pure _
  | selector hnone hpath =>
    rw [hnone, hpath]
    cases indexNamed? name.text with
    | some index => exact Run.settled_pure _
    | none => exact Run.settled_pure _

/-- Sound stages run on every value. -/
theorem runStages_settled {stages : List Segment}
    (h : ∀ stage ∈ stages, Segment.WellFormed stage) (source : Json) (location : String)
    (prior : Segment) (value : Json) :
    (runStages .standard source location prior value stages).Settled := by
  induction stages generalizing prior value with
  | nil => exact Run.settled_pure value
  | cons stage stages ih =>
    rcases List.forall_mem_cons.mp h with ⟨hstage, hstages⟩
    cases stage with
    | nil => cases hstage
    | cons name arguments =>
      rw [runStages]
      apply Run.Settled.bind
      · exact applyOperation_settled hstage value _ location
      · exact fun value => ih hstages _ value

/-- A sound expression has a value on every source. -/
theorem evaluate_settled {text : String} (h : IsWellFormedExpression text) (source : Json)
    (location : String) : (evaluate .standard source text location).Settled := by
  rcases h with ⟨selector, stages, hscan, hstages⟩
  by_cases hne : text = ""
  · subst hne
    exact Run.settled_pure Json.null
  · rw [evaluate_of_segments _ source location hne hscan]
    exact runStages_settled hstages source location selector _

/-! ## Sound templates -/

/-- A sound template has sound expressions.  A call names a callback of the standard
registry: one for nested records brings a parameter that is read as a sound template, one
for lookup tables brings a table. -/
inductive Template.WellFormed : Template → Prop
  | mapping {fields : List (String × Template)} (hfields : ∀ field ∈ fields, WellFormed field.2) :
      WellFormed (.mapping fields)
  | sequence {items : List Template} (hitems : ∀ item ∈ items, WellFormed item) :
      WellFormed (.sequence items)
  | expression {text : String} (htext : IsWellFormedExpression text) :
      WellFormed (.expression text)
  | literal (value : Json) : WellFormed (.literal value)
  | records {text function : String} {parameters : Fields Json} {config : Json}
      {nested : Template} (hfunction : function ∈ Registry.recordsNames)
      (htext : IsWellFormedExpression text)
      (hconfig : (Fields.get? "template" parameters).or
        (Fields.get? "config_json" parameters) = some config)
      (hread : Template.ofConfig config = .ok nested) (hnested : WellFormed nested) :
      WellFormed (.call text function parameters)
  | lookup {text function : String} {parameters : Fields Json} {table : Json}
      (hfunction : function ∈ Registry.lookupNames) (htext : IsWellFormedExpression text)
      (htable : (Fields.get? "table" parameters).or
        (Fields.get? "enum_dict" parameters) = some table) :
      WellFormed (.call text function parameters)

/-! ## Depth of nested calls -/

/-- A value that is found is not deeper than the fields. -/
theorem Json.depth_le_depthFields {name : String} {fields : Fields Json} {value : Json}
    (h : Fields.get? name fields = some value) : value.depth ≤ Json.depthFields fields := by
  induction fields with
  | nil => simp [Fields.get?] at h
  | cons field fields ih =>
    rcases field with ⟨key, first⟩
    rw [Json.depthFields]
    by_cases hkey : key = name
    · obtain rfl : first = value := by simpa [Fields.get?, hkey] using h
      exact Nat.le_max_left _ _
    · exact le_max_of_le_right (ih (by simpa [Fields.get?, hkey] using h))

/-- Fields do not get deeper when one is erased. -/
theorem Json.depthFields_erase_le (name : String) (fields : Fields Json) :
    Json.depthFields (Fields.erase name fields) ≤ Json.depthFields fields := by
  induction fields with
  | nil => exact Nat.le_refl _
  | cons field fields ih =>
    rcases field with ⟨key, first⟩
    unfold Fields.erase at ih ⊢
    rw [List.filter_cons]
    split
    · rw [Json.depthFields, Json.depthFields]
      exact max_le_max_left _ ih
    · rw [Json.depthFields]
      exact le_max_of_le_right ih

/-- The call that an object stands for nests calls no deeper than the object nests
values. -/
theorem Template.callDepth_le_of_callOfFields {fields : Fields Json} {template : Template}
    (h : Template.callOfFields fields = .ok template) :
    template.callDepth ≤ Json.depthFields fields + 1 := by
  rcases exists_of_bind_eq_ok h with ⟨source, -, h⟩
  rcases exists_of_bind_eq_ok h with ⟨name, -, h⟩
  cases h
  rw [Template.callDepth]
  have hfirst := Json.depthFields_erase_le sourceKey fields
  have hsecond := Json.depthFields_erase_le functionKey (Fields.erase sourceKey fields)
  omega

mutual

/-- A template that is read from a value nests calls no deeper than the value nests
values. -/
theorem Template.callDepth_le_depth {config : Json} {template : Template}
    (h : Template.ofConfig config = .ok template) : template.callDepth ≤ config.depth := by
  cases config with
  | object fields =>
    rw [Template.ofConfig] at h
    rw [Json.depth]
    split at h
    · exact Template.callDepth_le_of_callOfFields h
    · rcases exists_of_map_eq_ok h with ⟨templates, hfields, rfl⟩
      have := Template.callDepthFields_le_depthFields hfields
      rw [Template.callDepth]
      omega
  | array items =>
    rw [Template.ofConfig] at h
    rcases exists_of_map_eq_ok h with ⟨templates, hitems, rfl⟩
    have := Template.callDepthItems_le_depthItems hitems
    rw [Template.callDepth, Json.depth]
    omega
  | string text =>
    cases h
    exact Nat.zero_le _
  | null | bool | number =>
    cases h
    exact Nat.zero_le _

/-- Templates that are read from items nest calls no deeper than the items nest values. -/
theorem Template.callDepthItems_le_depthItems {items : List Json} {templates : List Template}
    (h : Template.ofConfigItems items = .ok templates) :
    Template.callDepthItems templates ≤ Json.depthItems items := by
  cases items with
  | nil =>
    cases h
    exact Nat.zero_le _
  | cons item items =>
    rw [Template.ofConfigItems] at h
    rcases exists_of_bind_eq_ok h with ⟨template, hitem, h⟩
    rcases exists_of_bind_eq_ok h with ⟨others, hitems, h⟩
    cases h
    have hfirst := Template.callDepth_le_depth hitem
    have hrest := Template.callDepthItems_le_depthItems hitems
    rw [Template.callDepthItems, Json.depthItems]
    exact max_le_max hfirst hrest

/-- Templates that are read from fields nest calls no deeper than the fields nest
values. -/
theorem Template.callDepthFields_le_depthFields {fields : List (String × Json)}
    {templates : List (String × Template)}
    (h : Template.ofConfigFields fields = .ok templates) :
    Template.callDepthFields templates ≤ Json.depthFields fields := by
  cases fields with
  | nil =>
    cases h
    exact Nat.zero_le _
  | cons field fields =>
    rcases field with ⟨name, value⟩
    rw [Template.ofConfigFields] at h
    rcases exists_of_bind_eq_ok h with ⟨template, hvalue, h⟩
    rcases exists_of_bind_eq_ok h with ⟨others, hfields, h⟩
    cases h
    have hfirst := Template.callDepth_le_depth hvalue
    have hrest := Template.callDepthFields_le_depthFields hfields
    rw [Template.callDepthFields, Json.depthFields]
    exact max_le_max hfirst hrest

end

/-- A field nests calls no deeper than all fields. -/
theorem Template.callDepth_le_callDepthFields {fields : List (String × Template)}
    {field : String × Template} (h : field ∈ fields) :
    field.2.callDepth ≤ Template.callDepthFields fields := by
  induction fields with
  | nil => cases h
  | cons first fields ih =>
    rcases first with ⟨name, template⟩
    rw [Template.callDepthFields]
    rcases List.mem_cons.mp h with rfl | h
    · exact Nat.le_max_left _ _
    · exact le_max_of_le_right (ih h)

/-- An item nests calls no deeper than all items. -/
theorem Template.callDepth_le_callDepthItems {items : List Template} {item : Template}
    (h : item ∈ items) : item.callDepth ≤ Template.callDepthItems items := by
  induction items with
  | nil => cases h
  | cons first items ih =>
    rw [Template.callDepthItems]
    rcases List.mem_cons.mp h with rfl | h
    · exact Nat.le_max_left _ _
    · exact le_max_of_le_right (ih h)

/-! ## Nested records -/

section Records

variable {transform : Json → Template → String → Run Json} {template : Template}

mutual

/-- When every record has a result, so have the records in a value. -/
theorem transformRecords_settled
    (h : ∀ source location, (transform source template location).Settled) (value : Json)
    (location : String) : (transformRecords transform template location value).Settled := by
  cases value with
  | object fields =>
    rw [transformRecords]
    exact h _ _
  | array items =>
    rw [transformRecords]
    apply Run.Settled.bind
    · exact transformItems_settled h items location 0
    · exact fun items => Run.settled_pure _
  | null | bool | number | string =>
    exact Run.settled_pure _

/-- When every record has a result, so have the records in items. -/
theorem transformItems_settled
    (h : ∀ source location, (transform source template location).Settled) (items : List Json)
    (location : String) (index : Nat) :
    (transformItems transform template location index items).Settled := by
  cases items with
  | nil => exact Run.settled_pure _
  | cons item items =>
    rw [transformItems]
    apply Run.Settled.bind
    · exact transformRecords_settled h item _
    · intro value
      apply Run.Settled.bind
      · exact transformItems_settled h items location (index + 1)
      · exact fun items => Run.settled_pure _

end

end Records

/-! ## Transformations -/

namespace Transformer

/-- Sound templates whose calls nest less deep than a bound give a value. -/
def SettlesBelow (bound : Nat) (transform : Json → Template → String → Run Json) : Prop :=
  ∀ template : Template, template.WellFormed → template.callDepth < bound →
    ∀ source location, (transform source template location).Settled

/-- A smaller bound asks for less. -/
theorem SettlesBelow.mono {bound bound' : Nat}
    {transform : Json → Template → String → Run Json} (h : SettlesBelow bound transform)
    (hle : bound' ≤ bound) : SettlesBelow bound' transform :=
  fun template hwell hlt => h template hwell (hlt.trans_le hle)

section Walk

variable {r : Registry} {engine : Engine} {source : Json}

/-- When every field has a result, so have the fields. -/
theorem walkFields_settled {fields : List (String × Template)}
    (h : ∀ field ∈ fields, ∀ location, (walk r engine source location field.2).Settled)
    (location : String) : (walkFields r engine source location fields).Settled := by
  induction fields with
  | nil => exact Run.settled_pure _
  | cons field fields ih =>
    rcases List.forall_mem_cons.mp h with ⟨hfield, hfields⟩
    rw [walkFields]
    apply Run.Settled.bind
    · exact hfield _
    · intro value
      apply Run.Settled.bind
      · exact ih hfields
      · exact fun fields => Run.settled_pure _

/-- When every item has a result, so have the items. -/
theorem walkItems_settled {items : List Template}
    (h : ∀ item ∈ items, ∀ location, (walk r engine source location item).Settled)
    (location : String) (index : Nat) :
    (walkItems r engine source location index items).Settled := by
  induction items generalizing index with
  | nil => exact Run.settled_pure _
  | cons item items ih =>
    rcases List.forall_mem_cons.mp h with ⟨hitem, hitems⟩
    rw [walkItems]
    apply Run.Settled.bind
    · exact hitem _
    · intro value
      apply Run.Settled.bind
      · exact ih hitems (index + 1)
      · exact fun items => Run.settled_pure _

end Walk

section Callbacks

variable {parameters : Fields Json} {location : String} {engine : Engine}

/-- The callback for nested records transforms them with the template of its parameter. -/
theorem recordsCallback_of_ofConfig {config : Json} {nested : Template}
    (hconfig : (Fields.get? "template" parameters).or
      (Fields.get? "config_json" parameters) = some config)
    (hread : Template.ofConfig config = .ok nested) (value : Json) :
    recordsCallback value ⟨parameters, location, engine⟩ =
      transformRecords engine.transform nested location value := by
  unfold recordsCallback Invocation.eitherParameter? Invocation.parameter?
  rw [hconfig]
  simp only [hread, Run.ofExcept, pure_bind]

/-- The callback for nested records gives a value when its engine settles its template. -/
theorem recordsCallback_settled {config : Json} {nested : Template}
    (hconfig : (Fields.get? "template" parameters).or
      (Fields.get? "config_json" parameters) = some config)
    (hread : Template.ofConfig config = .ok nested)
    (hnested : ∀ source location, (engine.transform source nested location).Settled)
    (value : Json) : (recordsCallback value ⟨parameters, location, engine⟩).Settled := by
  rw [recordsCallback_of_ofConfig hconfig hread]
  exact transformRecords_settled hnested value location

/-- The callback for lookup tables gives a value when it has a table. -/
theorem lookupCallback_settled {table : Json}
    (htable : (Fields.get? "table" parameters).or
      (Fields.get? "enum_dict" parameters) = some table)
    (value : Json) : (lookupCallback value ⟨parameters, location, engine⟩).Settled := by
  unfold lookupCallback Invocation.eitherParameter? Invocation.parameter?
  rw [htable]
  exact Run.settled_pure _

end Callbacks

/-- One of two parameters that is given is among the parameters. -/
theorem depth_le_of_either {parameters : Fields Json} {name alternative : String} {value : Json}
    (h : (Fields.get? name parameters).or (Fields.get? alternative parameters) = some value) :
    value.depth ≤ Json.depthFields parameters := by
  rcases Option.or_eq_some_iff.mp h with h | ⟨-, h⟩
  · exact Json.depth_le_depthFields h
  · exact Json.depth_le_depthFields h

/-- A sound template is walked to its end when the engine settles the templates below it. -/
theorem walk_settled {template : Template} (h : template.WellFormed) {engine : Engine}
    (hengine : SettlesBelow template.callDepth engine.transform) (source : Json)
    (location : String) : (walk .standard engine source location template).Settled := by
  induction h generalizing location with
  | mapping hfields ih =>
    rw [walk]
    apply Run.Settled.bind
    · apply walkFields_settled
      intro field hfield location
      exact ih field hfield (hengine.mono (Template.callDepth_le_callDepthFields hfield)) location
    · exact fun fields => Run.settled_pure _
  | sequence hitems ih =>
    rw [walk]
    apply Run.Settled.bind
    · apply walkItems_settled
      intro item hitem location
      exact ih item hitem (hengine.mono (Template.callDepth_le_callDepthItems hitem)) location
    · exact fun items => Run.settled_pure _
  | expression htext =>
    rw [walk]
    exact evaluate_settled htext source location
  | literal value =>
    rw [walk]
    exact Run.settled_pure value
  | records hfunction htext hconfig hread hnested =>
    rw [walk, Registry.callback?_standard_records hfunction]
    apply Run.Settled.bind
    · exact evaluate_settled htext source location
    · intro value
      apply Run.Settled.mapError
      apply recordsCallback_settled hconfig hread
      -- The nested template is read from a parameter, so it lies below the call.
      apply hengine _ hnested
      have hread_le := Template.callDepth_le_depth hread
      have hconfig_le := depth_le_of_either hconfig
      rw [Template.callDepth]
      omega
  | lookup hfunction htext htable =>
    rw [walk, Registry.callback?_standard_lookup hfunction]
    apply Run.Settled.bind
    · exact evaluate_settled htext source location
    · intro value
      apply Run.Settled.mapError
      exact lookupCallback_settled htable value

/-- A budget settles the sound templates whose calls nest less deep. -/
theorem transformWithin_settlesBelow (mode : Mode) (budget : Nat) :
    SettlesBelow budget (transformWithin ⟨.standard, mode⟩ budget) := by
  induction budget with
  | zero =>
    intro template hwell hlt
    contradiction
  | succ budget ih =>
    intro template hwell hlt source location
    rw [transformWithin]
    exact walk_settled hwell (ih.mono (Nat.le_of_lt_succ hlt)) source location

/-- A sound template gives a value on every source and at every place, whatever the mode. -/
theorem transform_settled (mode : Mode) {template : Template} (h : template.WellFormed)
    (source : Json) (location : String) :
    ∃ value, transform ⟨.standard, mode⟩ source template location = pure value :=
  transformWithin_settlesBelow mode (template.callDepth + 1) template h (Nat.lt_succ_self _)
    source location

/-- A call for nested records with an index in front, whose records are selected from and
listed. -/
theorem transform_settled_rows :
    Template.WellFormed (.call "groups $ -1 $ .rows" "transform"
      [("template", .object [("pair", .array [.string "* $ .id $ list name 'x'"])])]) ∧
    ∃ value, transform ⟨.standard, .manyToMany⟩
      (.object [("groups", .array [.object [("rows", .array [.null, .object [("id", .null)]])]])])
      (.call "groups $ -1 $ .rows" "transform"
        [("template", .object [("pair", .array [.string "* $ .id $ list name 'x'"])])]) ".out" =
      pure value := by
  obtain ⟨hindex, hrows, hid⟩ : (Registry.standard.operation? "-1").isNone ∧
      (Registry.standard.operation? ".rows").isNone ∧
      (Registry.standard.operation? ".id").isNone := by decide +kernel
  rw [Option.isNone_iff_eq_none] at hindex hrows hid
  have hone : IsIndexName "-1" :=
    ⟨['1'], by decide, List.forall_mem_singleton.mpr (by decide), .inr ⟨by decide, by decide⟩⟩
  obtain ⟨list, hlist, hname, htakes⟩ :
      ∃ entry ∈ entries, "list" = entry.name ∧ entry.body.takes 2 := by decide +kernel
  have houter : IsWellFormedExpression "groups $ -1 $ .rows" := by
    refine ⟨[.word "groups".toList], [[.word "-1".toList], [.word ".rows".toList]],
      by decide +kernel, ?_⟩
    simp only [List.forall_mem_cons, List.not_mem_nil, false_imp_iff, implies_true, and_true]
    exact ⟨.index hindex hone, .selector hrows rfl⟩
  have hinner : IsWellFormedExpression "* $ .id $ list name 'x'" := by
    refine ⟨[.word "*".toList], [[.word ".id".toList],
      [.word "list".toList, .word "name".toList, .quoted '\'' ['x']]], by decide +kernel, ?_⟩
    simp only [List.forall_mem_cons, List.not_mem_nil, false_imp_iff, implies_true, and_true]
    exact ⟨.selector hid rfl, .catalog hlist hname htakes⟩
  have hnested : Template.WellFormed
      (.mapping [("pair", .sequence [.expression "* $ .id $ list name 'x'"])]) := by
    apply Template.WellFormed.mapping
    rw [List.forall_mem_singleton]
    apply Template.WellFormed.sequence
    rw [List.forall_mem_singleton]
    exact .expression hinner
  have hfunction : "transform" ∈ Registry.recordsNames := by decide
  exact ⟨.records hfunction houter rfl rfl hnested,
    transform_settled .manyToMany (.records hfunction houter rfl rfl hnested) _ _⟩

end Transformer

end Reshape
