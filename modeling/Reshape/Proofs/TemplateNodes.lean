import Mathlib.Data.List.Basic
import Reshape.Proofs.Outcomes
import Reshape.Transformer

/-!
# Nodes of templates

Mappings and sequences have parts, each a step below its container: under a name or at an
index.  The nodes of a template are what steps one after the other lead to, and the place
of a node is told by its trail of steps.

A walk over a container runs over its parts, each at the place of its step, and puts the
values together.  So one argument serves mappings and sequences alike, and what a walk
comes to is told by the nodes without parts.

Main results:

- Definition `Json.partAt?`: what a trail leads to in a value.
- Definition `Template.HasNode`: the nodes of a template and their trails.
- Theorem `Template.induction`: a property of all parts of each template holds of every
  template.
- Theorems `Transformer.walk_mapping`, `Transformer.walk_sequence`: a walk over a container
  runs over its parts.
- Theorem `Transformer.walk_congr`: walks that agree at expressions and calls agree.
- Theorem `Transformer.exists_node_of_walk_canFail`: a walk that fails does so at an
  expression or a call.
-/

namespace Reshape

/-! ## Trails -/

/-- One step down from a container: to a field or to an item. -/
inductive Step where
  | field (name : String)
  | item (index : Nat)
deriving DecidableEq

/-- A step as it is written in places. -/
def Step.name : Step → String
  | field name => name
  | item index => toString index

/-- The text of steps in a place: each with a point in front. -/
def breadcrumb : List Step → String
  | [] => ""
  | step :: trail => "." ++ step.name ++ breadcrumb trail

/-- The place of a part goes on with the trail below it. -/
theorem placeIn_append_breadcrumb (location : String) (step : Step) (trail : List Step) :
    placeIn location step.name ++ breadcrumb trail = location ++ breadcrumb (step :: trail) := by
  simp only [placeIn, breadcrumb, String.append_assoc]

/-- Trails one after the other are written one after the other. -/
theorem breadcrumb_append (first second : List Step) :
    breadcrumb (first ++ second) = breadcrumb first ++ breadcrumb second := by
  induction first with
  | nil => simp [breadcrumb]
  | cons step first ih => simp only [List.cons_append, breadcrumb, ih, String.append_assoc]

/-- Items are in the order of their indexes. -/
theorem pairwise_zipIdx {α : Type} (index : Nat) (items : List α) :
    (items.zipIdx index).Pairwise fun a b => a.2 < b.2 := by
  induction items generalizing index with
  | nil => exact .nil
  | cons item items ih =>
    exact List.pairwise_cons.mpr
      ⟨fun other hother => List.le_snd_of_mem_zipIdx hother, ih (index + 1)⟩

/-! ## Parts of values -/

namespace Json

/-- The part of a value that a step leads to. -/
def part? : Json → Step → Option Json
  | object fields, .field name => Fields.get? name fields
  | array items, .item index => items[index]?
  | _, _ => none

/-- The part of a value that a trail leads to. -/
def partAt? (v : Json) (trail : List Step) : Option Json :=
  trail.foldlM part? v

/-- A trail is followed step by step. -/
theorem partAt?_cons (v : Json) (step : Step) (trail : List Step) :
    v.partAt? (step :: trail) = (v.part? step).bind (·.partAt? trail) :=
  rfl

end Json

/-! ## Parts and nodes -/

namespace Template

/-- The parts of a container with the steps that lead to them, in their order. -/
def parts : Template → List (Step × Template)
  | mapping fields => fields.map fun field => (.field field.1, field.2)
  | sequence items => items.zipIdx.map fun item => (.item item.2, item.1)
  | _ => []

/-- A template has itself as a node, and the nodes of its parts. -/
inductive HasNode : Template → List Step → Template → Prop
  | root (template : Template) : HasNode template [] template
  | part {template part node : Template} {step : Step} {trail : List Step}
      (hpart : (step, part) ∈ template.parts) (hnode : HasNode part trail node) :
      HasNode template (step :: trail) node

/-- A node of a node is a node of the template. -/
theorem HasNode.trans {template node leaf : Template} {trail rest : List Step}
    (h : template.HasNode trail node) (hleaf : node.HasNode rest leaf) :
    template.HasNode (trail ++ rest) leaf := by
  induction h with
  | root => exact hleaf
  | part hpart _ ih => exact .part hpart (ih hleaf)

/-- The expression of a node that has one: of an expression itself, or of a call. -/
def expression? : Template → Option String
  | expression text => some text
  | call text _ _ => some text
  | _ => none

/-- The expressions that stand in a template, those of its calls included. -/
def HasExpression (template : Template) (text : String) : Prop :=
  ∃ trail node, template.HasNode trail node ∧ node.expression? = some text

/-- The expressions of a template are its own one, if it has one, and those of its parts. -/
theorem hasExpression_iff {template : Template} {text : String} :
    template.HasExpression text ↔
      template.expression? = some text ∨ ∃ part ∈ template.parts, part.2.HasExpression text := by
  constructor
  · rintro ⟨trail, node, hnode, htext⟩
    cases hnode with
    | root => exact .inl htext
    | part hpart hnode => exact .inr ⟨_, hpart, _, node, hnode, htext⟩
  · rintro (htext | ⟨part, hpart, trail, node, hnode, htext⟩)
    · exact ⟨[], template, .root template, htext⟩
    · exact ⟨part.1 :: trail, node, .part hpart hnode, htext⟩

section Expressions

variable {text : String}

/-- The expressions of a mapping are those of its fields. -/
@[simp]
theorem hasExpression_mapping {fields : List (String × Template)} :
    (mapping fields).HasExpression text ↔ ∃ field ∈ fields, field.2.HasExpression text := by
  rw [hasExpression_iff]
  constructor
  · rintro (htext | ⟨part, hpart, h⟩)
    · cases htext
    · rcases List.mem_map.mp hpart with ⟨field, hfield, rfl⟩
      exact ⟨field, hfield, h⟩
  · rintro ⟨field, hfield, h⟩
    exact .inr ⟨(.field field.1, field.2), List.mem_map_of_mem hfield, h⟩

/-- The expressions of a sequence are those of its items. -/
@[simp]
theorem hasExpression_sequence {items : List Template} :
    (sequence items).HasExpression text ↔ ∃ item ∈ items, item.HasExpression text := by
  rw [hasExpression_iff]
  constructor
  · rintro (htext | ⟨part, hpart, h⟩)
    · cases htext
    · rcases List.mem_map.mp hpart with ⟨item, hitem, rfl⟩
      exact ⟨item.1, List.fst_mem_of_mem_zipIdx hitem, h⟩
  · rintro ⟨item, hitem, h⟩
    rcases List.mem_iff_getElem?.mp hitem with ⟨index, hindex⟩
    have hmem := List.mk_mem_zipIdx_iff_getElem?.mpr hindex
    exact .inr ⟨(.item index, item), List.mem_map_of_mem hmem, h⟩

/-- An expression holds itself. -/
@[simp]
theorem hasExpression_expression {own : String} :
    (expression own).HasExpression text ↔ own = text := by
  rw [hasExpression_iff]
  simp [parts, expression?]

/-- A call holds its own expression, and none of its parameters. -/
@[simp]
theorem hasExpression_call {own function : String} {parameters : Fields Json} :
    (call own function parameters).HasExpression text ↔ own = text := by
  rw [hasExpression_iff]
  simp [parts, expression?]

end Expressions

mutual

/-- A template has every property that each template has of which all parts have it. -/
theorem induction {motive : Template → Prop}
    (step : ∀ template, (∀ part ∈ template.parts, motive part.2) → motive template)
    (template : Template) : motive template := by
  apply step
  cases template with
  | mapping fields =>
    intro part hpart
    rcases List.mem_map.mp hpart with ⟨field, hfield, rfl⟩
    exact forall_fields step fields field hfield
  | sequence items =>
    intro part hpart
    rcases List.mem_map.mp hpart with ⟨item, hitem, rfl⟩
    exact forall_items step items item.1 (List.fst_mem_of_mem_zipIdx hitem)
  | expression | call | literal => simp [parts]

/-- Fields have every property that each template has of which all parts have it. -/
theorem forall_fields {motive : Template → Prop}
    (step : ∀ template, (∀ part ∈ template.parts, motive part.2) → motive template)
    (fields : List (String × Template)) : ∀ field ∈ fields, motive field.2 := by
  cases fields with
  | nil => simp
  | cons field fields =>
    rcases field with ⟨name, template⟩
    exact List.forall_mem_cons.mpr ⟨induction step template, forall_fields step fields⟩

/-- Items have every property that each template has of which all parts have it. -/
theorem forall_items {motive : Template → Prop}
    (step : ∀ template, (∀ part ∈ template.parts, motive part.2) → motive template)
    (items : List Template) : ∀ item ∈ items, motive item := by
  cases items with
  | nil => simp
  | cons item items =>
    exact List.forall_mem_cons.mpr ⟨induction step item, forall_items step items⟩

end

end Template

/-! ## Walks over parts -/

namespace Transformer

variable (r : Registry) (engine : Engine) (source : Json) (location : String)

/-- A transformation walks its template, with what is left of the budget for callbacks. -/
theorem transform_eq_walk (t : Transformer) (template : Template) :
    t.transform source template location =
      walk t.registry (t.engine (t.transformWithin template.callDepth)) source location template :=
  rfl

/-- A walk over one part, at the place of its step. -/
def walkPart (part : Step × Template) : Run Json :=
  walk r engine source (placeIn location part.1.name) part.2

/-- A walk over fields runs over them as parts. -/
theorem walkFields_eq_mapM (fields : List (String × Template)) :
    walkFields r engine source location fields = (do
      let values ← (Template.mapping fields).parts.mapM (walkPart r engine source location)
      return (fields.map Prod.fst).zip values) := by
  induction fields with
  | nil => rfl
  | cons field fields ih =>
    rcases field with ⟨name, template⟩
    rw [walkFields, ih]
    simp [Template.parts, walkPart, Step.name]

/-- A walk over items runs over them as parts. -/
theorem walkItems_eq_mapM (index : Nat) (items : List Template) :
    walkItems r engine source location index items =
      ((items.zipIdx index).map fun item => (Step.item item.2, item.1)).mapM
        (walkPart r engine source location) := by
  induction items generalizing index with
  | nil => rfl
  | cons item items ih =>
    rw [walkItems, ih]
    simp [walkPart, Step.name]

/-- A walk over a mapping runs over its parts and puts the names before the values. -/
theorem walk_mapping (fields : List (String × Template)) :
    walk r engine source location (.mapping fields) = (do
      let values ← (Template.mapping fields).parts.mapM (walkPart r engine source location)
      return .object ((fields.map Prod.fst).zip values)) := by
  rw [walk, walkFields_eq_mapM]
  simp

/-- A walk over a sequence runs over its parts. -/
theorem walk_sequence (items : List Template) :
    walk r engine source location (.sequence items) = (do
      let values ← (Template.sequence items).parts.mapM (walkPart r engine source location)
      return .array values) := by
  rw [walk, walkItems_eq_mapM]
  rfl

/-- Two walks over a template are the same when they are the same at its expressions and
calls, each at its own place. -/
theorem walk_congr {r r' : Registry} {engine engine' : Engine} {source source' : Json}
    {template : Template} {location : String}
    (h : ∀ trail node text, template.HasNode trail node → node.expression? = some text →
      walk r engine source (location ++ breadcrumb trail) node =
        walk r' engine' source' (location ++ breadcrumb trail) node) :
    walk r engine source location template = walk r' engine' source' location template := by
  induction template using Template.induction generalizing location with
  | step template ih =>
    have hown : ∀ text, template.expression? = some text →
        walk r engine source location template = walk r' engine' source' location template := by
      intro text htext
      simpa [breadcrumb] using h [] template text (.root template) htext
    have hparts : template.parts.mapM (walkPart r engine source location) =
        template.parts.mapM (walkPart r' engine' source' location) := by
      apply Run.mapM_congr
      intro part hpart
      apply ih part hpart
      intro trail node text hnode htext
      rw [placeIn_append_breadcrumb]
      exact h (part.1 :: trail) node text (.part hpart hnode) htext
    cases template with
    | mapping fields => rw [walk_mapping, walk_mapping, hparts]
    | sequence items => rw [walk_sequence, walk_sequence, hparts]
    | expression text => exact hown text rfl
    | call text function parameters => exact hown text rfl
    | literal value => rw [walk, walk]

/-- A walk that fails does so at an expression or a call, walked at its own place. -/
theorem exists_node_of_walk_canFail {template : Template} {error : Error}
    (h : (walk r engine source location template).CanFail error) :
    ∃ trail node text, template.HasNode trail node ∧ node.expression? = some text ∧
      (walk r engine source (location ++ breadcrumb trail) node).CanFail error := by
  induction template using Template.induction generalizing location with
  | step template ih =>
    have hparts (h : (template.parts.mapM (walkPart r engine source location)).CanFail error) :
        ∃ trail node text, template.HasNode trail node ∧ node.expression? = some text ∧
          (walk r engine source (location ++ breadcrumb trail) node).CanFail error := by
      rcases h.of_mapM with ⟨⟨step, part⟩, hpart, h⟩
      rcases ih (step, part) hpart _ h with ⟨trail, node, text, hnode, htext, h⟩
      rw [placeIn_append_breadcrumb] at h
      exact ⟨step :: trail, node, text, .part hpart hnode, htext, h⟩
    cases template with
    | mapping fields =>
      rw [walk_mapping] at h
      rcases h.of_bind with h | ⟨values, -, h⟩
      · exact hparts h
      · exact (Run.not_canFail_pure _ _ h).elim
    | sequence items =>
      rw [walk_sequence] at h
      rcases h.of_bind with h | ⟨values, -, h⟩
      · exact hparts h
      · exact (Run.not_canFail_pure _ _ h).elim
    | expression text => exact ⟨[], _, text, .root _, rfl, by simpa [breadcrumb] using h⟩
    | call text function parameters =>
      exact ⟨[], _, text, .root _, rfl, by simpa [breadcrumb] using h⟩
    | literal value =>
      rw [walk] at h
      exact (Run.not_canFail_pure _ _ h).elim

end Transformer

end Reshape
