import Reshape.Proofs.ErrorPlaces

/-!
# Termination of transformations

A callback may transform again, with a template that is no part of the one it stands in:
it is read at run time from the parameters of the call.  A value inside of the parameters
is not as deep as they are, and a template nests calls no deeper than the value that it is
read from, so the depth of calls shrinks with every nested transformation, by whatever
callback it is asked for.  Everything else follows the structure of templates and values:
a walk ends with its template, and a search for records with the value that it goes
through.

So the transformation solves the plain recursion, in which callbacks transform again
without a budget, and nothing else solves it.  A budget above the depth of calls is never
used up, on any source; how deep the values are that hold the records does not count.

Main results:

- Definition `Template.Nests`: the templates that the calls in a template can run.
- Theorem `Template.wellFounded_nests`: templates do not nest without end.
- Definition `Registry.ReadsParameters`: callbacks transform only with templates that they
  read from parameters.
- Theorem `Transformer.transformWithin_eq_transform`: a budget above the depth of calls is
  enough.
- Theorem `Transformer.eq_transform_iff`: the transformation is the only solution of its
  recursion.
- Theorem `Transformer.transform_terminates`: all this for the standard registry.
-/

namespace Reshape

/-! ## Values inside of values -/

namespace Json

/-- An item is not deeper than all items. -/
theorem depth_le_depthItems {item : Json} {items : List Json} (h : item ∈ items) :
    item.depth ≤ depthItems items := by
  induction items with
  | nil => cases h
  | cons first items ih =>
    rw [depthItems]
    rcases List.mem_cons.mp h with rfl | h
    · exact Nat.le_max_left _ _
    · exact le_max_of_le_right (ih h)

/-- A part is not as deep as its container. -/
theorem depth_lt_of_part? {v part : Json} {step : Step} (h : v.part? step = some part) :
    part.depth < v.depth := by
  cases v with
  | null | bool | number | string => cases step <;> cases h
  | array items =>
    cases step with
    | field name => cases h
    | item index =>
      have hle := depth_le_depthItems (List.mem_of_getElem? h)
      rw [depth]
      omega
  | object fields =>
    cases step with
    | item index => cases h
    | field name =>
      have hle := depth_le_depthFields h
      rw [depth]
      omega

/-- What a trail leads to is not deeper than the value that it starts from. -/
theorem depth_le_of_partAt? {v part : Json} {trail : List Step} (h : v.partAt? trail = some part) :
    part.depth ≤ v.depth := by
  induction trail generalizing v with
  | nil =>
    obtain rfl : v = part := Option.some.inj h
    exact Nat.le_refl _
  | cons step trail ih =>
    rw [partAt?_cons] at h
    obtain ⟨first, hfirst, hrest⟩ := Option.bind_eq_some_iff.mp h
    exact (ih hrest).trans (depth_lt_of_part? hfirst).le

/-- A value that stands inside of another one: a trail of one or more steps leads to it. -/
def Inside (inner outer : Json) : Prop :=
  ∃ step trail, outer.partAt? (step :: trail) = some inner

/-- A value inside of another one is not as deep. -/
theorem Inside.depth_lt {inner outer : Json} (h : inner.Inside outer) :
    inner.depth < outer.depth := by
  obtain ⟨step, trail, h⟩ := h
  rw [partAt?_cons] at h
  obtain ⟨first, hfirst, hrest⟩ := Option.bind_eq_some_iff.mp h
  exact (depth_le_of_partAt? hrest).trans_lt (depth_lt_of_part? hfirst)

/-- One of two parameters that is given stands inside of the object of the parameters. -/
theorem inside_of_either {parameters : Fields Json} {name alternative : String} {value : Json}
    (h : (Fields.get? name parameters).or (Fields.get? alternative parameters) = some value) :
    value.Inside (.object parameters) := by
  rcases Option.or_eq_some_iff.mp h with h | ⟨-, h⟩
  · exact ⟨.field name, [], by rw [partAt?_cons, part?, h]; rfl⟩
  · exact ⟨.field alternative, [], by rw [partAt?_cons, part?, h]; rfl⟩

end Json

/-! ## Nested templates -/

namespace Template

/-- A template that is read from a value inside of parameters. -/
def StandsIn (nested : Template) (parameters : Fields Json) : Prop :=
  ∃ config : Json, config.Inside (.object parameters) ∧ ofConfig config = .ok nested

/-- A template that stands in parameters nests calls less deep than a call with these
parameters. -/
theorem StandsIn.callDepth_lt {nested : Template} {parameters : Fields Json}
    (h : nested.StandsIn parameters) (text function : String) :
    nested.callDepth < (call text function parameters).callDepth := by
  obtain ⟨config, hinside, hread⟩ := h
  have hdepth := hinside.depth_lt
  have hle := callDepth_le_depth hread
  rw [Json.depth] at hdepth
  rw [callDepth]
  omega

/-- A template that a call in another one can run: it stands in the parameters of the
call. -/
def Nests (nested template : Template) : Prop :=
  ∃ trail text function parameters,
    template.HasNode trail (.call text function parameters) ∧ nested.StandsIn parameters

/-- Nested templates nest calls less deep. -/
theorem Nests.callDepth_lt {nested template : Template} (h : Nests nested template) :
    nested.callDepth < template.callDepth := by
  obtain ⟨trail, text, function, parameters, hnode, hstands⟩ := h
  exact (hstands.callDepth_lt text function).trans_le hnode.callDepth_le

/-- Templates do not nest without end. -/
theorem wellFounded_nests : WellFounded Nests :=
  Subrelation.wf (fun h => h.callDepth_lt) (measure callDepth).wf

end Template

/-! ## Callbacks -/

/-- Two engines that do the same for a call with some parameters: they evaluate alike, and
transform alike with every template that stands in the parameters. -/
structure Engine.AgreeOn (parameters : Fields Json) (engine engine' : Engine) : Prop where
  evaluate : engine.evaluate = engine'.evaluate
  transform : ∀ nested : Template, nested.StandsIn parameters → ∀ source location,
    engine.transform source nested location = engine'.transform source nested location
  apply : ∀ nested : Template, nested.StandsIn parameters → ∀ source,
    engine.apply nested source = engine'.apply nested source

/-- A callback that transforms only with templates that it reads from its parameters: what
engines do with others makes no difference to it. -/
def Callback.ReadsParameters (callback : Callback) : Prop :=
  ∀ parameters engine engine', Engine.AgreeOn parameters engine engine' → ∀ value location,
    callback value ⟨parameters, location, engine⟩ = callback value ⟨parameters, location, engine'⟩

/-- All callbacks transform only with templates that they read from their parameters. -/
def Registry.ReadsParameters (r : Registry) : Prop :=
  ∀ name callback, r.callback? name = some callback → callback.ReadsParameters

section Records

variable {transform transform' : Json → Template → String → Run Json} {template : Template}

mutual

/-- The records in a value are the same when each record is. -/
theorem transformRecords_congr
    (h : ∀ source location,
      transform source template location = transform' source template location)
    (value : Json) (location : String) :
    transformRecords transform template location value =
      transformRecords transform' template location value := by
  cases value with
  | object fields => exact h _ _
  | array items =>
    rw [transformRecords, transformRecords, transformItems_congr h]
  | null | bool | number | string => rfl

/-- The records in items are the same when each record is. -/
theorem transformItems_congr
    (h : ∀ source location,
      transform source template location = transform' source template location)
    (items : List Json) (location : String) (index : Nat) :
    transformItems transform template location index items =
      transformItems transform' template location index items := by
  cases items with
  | nil => rfl
  | cons item items =>
    rw [transformItems, transformItems, transformRecords_congr h]
    simp only [transformItems_congr h]

end

end Records

/-- The callback for nested records transforms with the template of its parameter. -/
theorem recordsCallback_readsParameters : Callback.ReadsParameters recordsCallback := by
  intro parameters engine engine' hagree value location
  unfold recordsCallback Invocation.eitherParameter? Invocation.parameter?
  cases hconfig : (Fields.get? "template" parameters).or
      (Fields.get? "config_json" parameters) with
  | none => rfl
  | some config =>
    simp only
    cases hread : Template.ofConfig config with
    | error error => rfl
    | ok nested =>
      simp only [Run.ofExcept, pure_bind]
      apply transformRecords_congr
      exact hagree.transform nested ⟨config, Json.inside_of_either hconfig, hread⟩

/-- The callback for lookup tables transforms nothing. -/
theorem lookupCallback_readsParameters : Callback.ReadsParameters lookupCallback :=
  fun _ _ _ _ _ _ => rfl

/-- The callbacks of the standard registry transform only with templates that they read
from their parameters. -/
theorem Registry.standard_readsParameters : standard.ReadsParameters := by
  intro name callback hcallback
  rcases callback?_standard_cases hcallback with ⟨-, rfl⟩ | ⟨-, rfl⟩
  · exact recordsCallback_readsParameters
  · exact lookupCallback_readsParameters

/-! ## Transformations -/

namespace Transformer

/-- Engines agree on parameters when they are made of ways to transform that agree on the
templates that stand there. -/
theorem engine_agreeOn (t : Transformer) {parameters : Fields Json}
    {transform transform' : Json → Template → String → Run Json}
    (h : ∀ nested : Template, nested.StandsIn parameters → ∀ source location,
      transform source nested location = transform' source nested location) :
    Engine.AgreeOn parameters (t.engine transform) (t.engine transform') where
  evaluate := rfl
  transform := h
  apply nested hstands source := by
    have hnested := h nested hstands
    cases source with
    | array records =>
      cases hmode : t.mode <;> simp only [engine, applyBy, hmode, hnested]
    | null | bool | number | string | object => exact hnested _ _

section Recursion

variable {t : Transformer} (hreads : t.registry.ReadsParameters)

include hreads

/-- A walk depends on how the templates are transformed that are nested in its template. -/
theorem walk_engine_congr {transform transform' : Json → Template → String → Run Json}
    {template : Template}
    (h : ∀ nested, Template.Nests nested template → ∀ source location,
      transform source nested location = transform' source nested location)
    (source : Json) (location : String) :
    walk t.registry (t.engine transform) source location template =
      walk t.registry (t.engine transform') source location template := by
  apply walk_congr
  intro trail node text hnode htext
  cases node with
  | mapping | sequence | literal => cases htext
  | expression text => rw [walk, walk]
  | call text function parameters =>
    rw [walk, walk]
    cases hcallback : t.registry.callback? function with
    | none => rfl
    | some callback =>
      have hagree : Engine.AgreeOn parameters (t.engine transform) (t.engine transform') :=
        t.engine_agreeOn fun nested hstands =>
          h nested ⟨trail, text, function, parameters, hnode, hstands⟩
      simp only [hreads function callback hcallback parameters _ _ hagree]

/-- Two budgets above the depth of calls come to the same. -/
theorem transformWithin_eq_transformWithin {budget budget' : Nat} {template : Template}
    (h : template.callDepth < budget) (h' : template.callDepth < budget') (source : Json)
    (location : String) :
    t.transformWithin budget source template location =
      t.transformWithin budget' source template location := by
  induction budget generalizing budget' template source location with
  | zero => omega
  | succ budget ih =>
    cases budget' with
    | zero => omega
    | succ budget' =>
      rw [transformWithin, transformWithin]
      apply walk_engine_congr hreads
      intro nested hnests source location
      have hlt := hnests.callDepth_lt
      exact ih (by omega) (by omega) source location

/-- A budget above the depth of calls is enough. -/
theorem transformWithin_eq_transform {budget : Nat} {template : Template}
    (h : template.callDepth < budget) (source : Json) (location : String) :
    t.transformWithin budget source template location = t.transform source template location :=
  transformWithin_eq_transformWithin hreads h (Nat.lt_succ_self _) source location

/-- The transformation walks its template, and callbacks transform again in the same
way. -/
theorem transform_recursion (source : Json) (template : Template) (location : String) :
    t.transform source template location =
      walk t.registry (t.engine t.transform) source location template := by
  rw [transform_eq_walk]
  apply walk_engine_congr hreads
  intro nested hnests source location
  exact transformWithin_eq_transform hreads hnests.callDepth_lt source location

/-- The transformation is the only solution of its recursion. -/
theorem eq_transform_iff (solution : Json → Template → String → Run Json) :
    (∀ source template location, solution source template location =
      walk t.registry (t.engine solution) source location template) ↔ solution = t.transform := by
  constructor
  · intro hsolution
    funext source template location
    induction template using Template.wellFounded_nests.induction generalizing source location with
    | _ template ih =>
      rw [hsolution, transform_recursion hreads]
      apply walk_engine_congr hreads
      intro nested hnests source location
      exact ih nested hnests source location
  · intro heq
    subst heq
    exact transform_recursion hreads

end Recursion

/-- A transformation with the standard registry never runs out of its budget. -/
theorem not_canFail_nestedTooDeep (mode : Mode) (source : Json) (template : Template)
    (location place : String) :
    ¬(transform ⟨.standard, mode⟩ source template location).CanFail (.nestedTooDeep place) := by
  intro h
  obtain ⟨trail, hplace⟩ := standsBelow_of_transformWithin mode (Nat.lt_succ_self _) h
  cases hplace

/-- Transformations with the standard registry come to an end.  Callbacks transform only
with templates that they read from values inside of their parameters, and templates do not
nest without end in this way.  Hence every budget above a bound that depends on the
template alone gives one and the same result, on every source and without ever running
out; and this result is the only solution of the recursion that has no budget. -/
theorem transform_terminates (mode : Mode) :
    Registry.standard.ReadsParameters ∧
    WellFounded Template.Nests ∧
    (∀ (template : Template) (budget : Nat), template.callDepth < budget → ∀ source location,
      transformWithin ⟨.standard, mode⟩ budget source template location =
        transform ⟨.standard, mode⟩ source template location) ∧
    (∀ source template location place,
      ¬(transform ⟨.standard, mode⟩ source template location).CanFail (.nestedTooDeep place)) ∧
    ∀ solution : Json → Template → String → Run Json,
      (∀ source template location, solution source template location =
        walk .standard (engine ⟨.standard, mode⟩ solution) source location template) ↔
      solution = transform ⟨.standard, mode⟩ := by
  have hreads : Registry.standard.ReadsParameters := Registry.standard_readsParameters
  refine ⟨hreads, Template.wellFounded_nests, ?_, not_canFail_nestedTooDeep mode, ?_⟩
  · intro template budget hbudget source location
    exact transformWithin_eq_transform hreads hbudget source location
  · exact eq_transform_iff (t := ⟨.standard, mode⟩) hreads

/-- A template that lists the records of orders, with an operation that takes no arguments
and is given one. -/
def ordersTemplate : Template :=
  .mapping [("orders", .sequence [.call "rows" "list"
    [("template", .object [("id", .string "id $ toString 'x'")])]])]

/-- Orders with one record, in an array inside of another one. -/
def ordersSource : Json :=
  .object [("rows", .array [.null, .array [.object [("id", .ofInt 7)]]])]

/-- A budget of four is enough for the template of the orders; a budget of one is used up
by the call in it. -/
theorem transform_terminates_orders :
    transformWithin ⟨.standard, .oneToOne⟩ 4 ordersSource ordersTemplate ".out" =
      transform ⟨.standard, .oneToOne⟩ ordersSource ordersTemplate ".out" ∧
    (transformWithin ⟨.standard, .oneToOne⟩ 1 ordersSource ordersTemplate ".out").CanFail
      (.nestedTooDeep ".out.orders.0.1.0") := by
  obtain ⟨-, -, henough, -⟩ := transform_terminates .oneToOne
  constructor
  · have hdepth : ordersTemplate.callDepth < 4 := by decide +kernel
    exact henough ordersTemplate 4 hdepth ordersSource ".out"
  · exact ⟨.ofFiles .none, by decide +kernel⟩

end Transformer

end Reshape
