import Reshape.Proofs.NestedRecords

/-!
# Nodes that fail

A transformation works in one order.  The parts of a container are transformed one after the
other, and so are the records in the value of a call, each on the tables that the ones before it
leave.  On given tables it therefore comes to certain nodes only: those of the template, and those
of the templates that its calls read from their parameters and apply to the records in their
values, as far as everything before them has a result.

With the standard registry a transformation fails exactly when it comes to a node that raises an
error for itself: in its expression, or because it has no callback, no parameter, or one that is no
template.  The error has the place of this node.

Main results:

- Definitions `Template.Reaches`, `Template.Raises`: the nodes that a transformation comes to on
  tables, and the error of a node.
- Theorem `Transformer.transform_on_eq_error_iff`: a transformation fails where it comes to a node
  that raises an error.
- Theorem `Transformer.exists_node_of_transform_error`: the node behind an error.
-/

namespace Reshape

/-! ## Nodes on tables -/

/-- Transforms a part of a container, at the place of its step. -/
def transformPart (mode : Mode) (source : Json) (location : String) (part : Step × Template) :
    Run Json :=
  Transformer.transform ⟨.standard, mode⟩ source part.2 (placeIn location part.1.name)

namespace Template

/-- The nodes that a transformation comes to on tables, each with its trail, its source and the
tables on which it is transformed: the template itself; the nodes of a part when the parts before
it have values; and for a call for nested records, the nodes of the template in its parameter on a
record in its value when the records before it have values, behind the indexes of the record. -/
inductive Reaches (mode : Mode) : Template → Json → String → Tables → List Step → Template → Json →
    Tables → Prop
  | root (template : Template) (source : Json) (location : String) (tables : Tables) :
      Reaches mode template source location tables [] template source tables
  | part {template part node : Template} {source source' : Json} {location : String}
      {tables between reached : Tables} {front back : List (Step × Template)} {step : Step}
      {trail : List Step} {values : List Json}
      (hparts : template.parts = front ++ (step, part) :: back)
      (hfront : Run.Completes (transformPart mode source location) front tables values between)
      (hpart : Reaches mode part source (placeIn location step.name) between trail node source'
        reached) :
      Reaches mode template source location tables (step :: trail) node source' reached
  | record {inner node : Template} {source source' value config : Json}
      {location text function : String} {tables before between reached : Tables}
      {parameters fields : Fields Json} {front back : List (List Nat × Fields Json)}
      {indexes : List Nat} {results : List Json} {trail : List Step}
      (hfunction : function ∈ Registry.recordsNames)
      (hconfig : (Fields.get? "template" parameters).or
        (Fields.get? "config_json" parameters) = some config)
      (hread : Template.ofConfig config = .ok inner)
      (hvalue : (evaluate .standard source text location).on tables = (.ok value, before))
      (hrecords : value.records = front ++ (indexes, fields) :: back)
      (hfront : Run.Completes
        (transformRecord (Transformer.transform ⟨.standard, mode⟩) inner location)
        front before results between)
      (hrecord : Reaches mode inner (.object fields) (location ++ breadcrumb (itemTrail indexes))
        between trail node source' reached) :
      Reaches mode (.call text function parameters) source location tables
        (itemTrail indexes ++ trail) node source' reached

/-- The error that a node at a place raises for itself on tables, and the tables that it leaves:
that of its expression; and for a call, that there is no such callback, that the parameter of the
callback is missing, and that it is no template. -/
inductive Raises (source : Json) (place : String) (tables : Tables) :
    Template → Error → Tables → Prop
  | expression {text : String} {error : Error} {after : Tables}
      (h : (evaluate .standard source text place).on tables = (.error error, after)) :
      Raises source place tables (.expression text) error after
  | argument {text function : String} {parameters : Fields Json} {error : Error} {after : Tables}
      (hfunction : function ∈ Registry.recordsNames ∨ function ∈ Registry.lookupNames)
      (h : (evaluate .standard source text place).on tables = (.error error, after)) :
      Raises source place tables (.call text function parameters) error after
  | unknown {text function : String} {parameters : Fields Json}
      (hrecords : function ∉ Registry.recordsNames) (hlookup : function ∉ Registry.lookupNames) :
      Raises source place tables (.call text function parameters) (.unknownFunction function place)
        tables
  | noTemplate {text function : String} {parameters : Fields Json} {value : Json} {after : Tables}
      (hfunction : function ∈ Registry.recordsNames)
      (hconfig : (Fields.get? "template" parameters).or
        (Fields.get? "config_json" parameters) = none)
      (hvalue : (evaluate .standard source text place).on tables = (.ok value, after)) :
      Raises source place tables (.call text function parameters)
        (.malformed (.missingParameter "transform" "template" "config_json") place) after
  | unreadTemplate {text function : String} {parameters : Fields Json} {config value : Json}
      {fault : Malformation} {after : Tables} (hfunction : function ∈ Registry.recordsNames)
      (hconfig : (Fields.get? "template" parameters).or
        (Fields.get? "config_json" parameters) = some config)
      (hread : Template.ofConfig config = .error (.malformed fault ""))
      (hvalue : (evaluate .standard source text place).on tables = (.ok value, after)) :
      Raises source place tables (.call text function parameters) (.malformed fault place) after
  | noTable {text function : String} {parameters : Fields Json} {value : Json} {after : Tables}
      (hfunction : function ∈ Registry.lookupNames)
      (htable : (Fields.get? "table" parameters).or
        (Fields.get? "enum_dict" parameters) = none)
      (hvalue : (evaluate .standard source text place).on tables = (.ok value, after)) :
      Raises source place tables (.call text function parameters)
        (.malformed (.missingParameter "enumChange" "table" "enum_dict") place) after

/-- What has parts is no expression and no call. -/
theorem expression?_eq_none {template : Template} {front back : List (Step × Template)}
    {part : Step × Template} (h : template.parts = front ++ part :: back) :
    template.expression? = none := by
  cases template with
  | mapping | sequence | literal => rfl
  | expression | call => simp [parts] at h

section Raises

variable {source : Json} {place : String} {tables after : Tables} {node : Template} {error : Error}

/-- An error of a node stands at its place. -/
theorem Raises.templatePlace? (h : node.Raises source place tables error after) :
    error.templatePlace? = some place := by
  cases h with
  | expression h => exact (evaluate_error h).1
  | argument _ h => exact (evaluate_error h).1
  | unknown | noTemplate | unreadTemplate | noTable => rfl

/-- Only expressions and calls raise errors, and invalid arguments are those of an operation
in the expression. -/
theorem Raises.exists_expression (h : node.Raises source place tables error after) :
    ∃ text, node.expression? = some text ∧
      ∀ operation location fault, error = .invalidArguments operation location fault →
        RaisedByOperation source text place operation tables error after := by
  cases h with
  | expression h => exact ⟨_, rfl, (evaluate_error h).2⟩
  | argument _ h => exact ⟨_, rfl, (evaluate_error h).2⟩
  | unknown | noTemplate | unreadTemplate | noTable =>
    exact ⟨_, rfl, fun operation location fault h => nomatch h⟩

end Raises

/-- A transformation on tables comes to a node that raises an error. -/
def FailsAtNode (mode : Mode) (template : Template) (source : Json) (location : String)
    (tables : Tables) (error : Error) (after : Tables) : Prop :=
  ∃ trail node source' reached,
    template.Reaches mode source location tables trail node source' reached ∧
    node.Raises source' (location ++ breadcrumb trail) reached error after

section FailsAtNode

variable {mode : Mode} {template inner : Template} {source value config : Json}
  {location text function : String} {tables before between after : Tables} {error : Error}

/-- A template may raise an error for itself. -/
theorem FailsAtNode.root (h : template.Raises source location tables error after) :
    template.FailsAtNode mode source location tables error after :=
  ⟨[], template, source, tables, .root template source location tables, by
    rwa [breadcrumb, String.append_empty]⟩

/-- The first part that fails may do so at a node. -/
theorem FailsAtNode.part {below : Template} {front back : List (Step × Template)} {step : Step}
    {values : List Json}
    (hparts : template.parts = front ++ (step, below) :: back)
    (hfront : Run.Completes (transformPart mode source location) front tables values between)
    (h : below.FailsAtNode mode source (placeIn location step.name) between error after) :
    template.FailsAtNode mode source location tables error after := by
  obtain ⟨trail, node, source', reached, hreaches, hraises⟩ := h
  rw [placeIn_append_breadcrumb] at hraises
  exact ⟨_, node, source', reached, .part hparts hfront hreaches, hraises⟩

/-- The first record that fails may do so at a node. -/
theorem FailsAtNode.record {parameters fields : Fields Json}
    {front back : List (List Nat × Fields Json)} {indexes : List Nat} {results : List Json}
    (hfunction : function ∈ Registry.recordsNames)
    (hconfig : (Fields.get? "template" parameters).or
      (Fields.get? "config_json" parameters) = some config)
    (hread : Template.ofConfig config = .ok inner)
    (hvalue : (evaluate .standard source text location).on tables = (.ok value, before))
    (hrecords : value.records = front ++ (indexes, fields) :: back)
    (hfront : Run.Completes
      (transformRecord (Transformer.transform ⟨.standard, mode⟩) inner location)
      front before results between)
    (h : inner.FailsAtNode mode (.object fields) (location ++ breadcrumb (itemTrail indexes))
      between error after) :
    (call text function parameters).FailsAtNode mode source location tables error after := by
  obtain ⟨trail, node, source', reached, hreaches, hraises⟩ := h
  rw [String.append_assoc, ← breadcrumb_append] at hraises
  exact ⟨_, node, source', reached,
    .record hfunction hconfig hread hvalue hrecords hfront hreaches, hraises⟩

end FailsAtNode

end Template

/-- A run that only fails behind another one fails with the error of that one, or else with its
own. -/
theorem Run.bind_throw_on_eq_error_iff {α β : Type} {run : Run α} {own error : Error}
    {tables after : Tables} :
    (run >>= fun _ => (throw own : Run β)).on tables = (.error error, after) ↔
      run.on tables = (.error error, after) ∨
        ∃ value, run.on tables = (.ok value, after) ∧ own = error := by
  rw [on_bind_eq_error_iff]
  simp only [on_throw, Prod.mk.injEq, Except.error.injEq]
  constructor
  · rintro (h | ⟨value, between, hvalue, rfl, rfl⟩)
    · exact .inl h
    · exact .inr ⟨value, hvalue, rfl⟩
  · rintro (h | ⟨value, hvalue, rfl⟩)
    · exact .inl h
    · exact .inr ⟨value, after, hvalue, rfl, rfl⟩

namespace Transformer

variable {mode : Mode} {source : Json} {location : String} {tables after : Tables} {error : Error}

/-! ## Containers -/

/-- Parts are walked as they are transformed. -/
theorem walkPart_eq_transformPart (mode : Mode) (source : Json) (location : String) :
    walkPart .standard (engine ⟨.standard, mode⟩ (transform ⟨.standard, mode⟩)) source location =
      transformPart mode source location := by
  funext part
  exact (transform_recursion (t := ⟨.standard, mode⟩) Registry.standard_readsParameters _ _ _).symm

/-- A container fails with the first of its parts that fails.  A literal has none. -/
theorem transform_container_on_eq_error_iff {template : Template}
    (h : template.expression? = none) :
    (transform ⟨.standard, mode⟩ source template location).on tables = (.error error, after) ↔
      ∃ front part back values between, template.parts = front ++ part :: back ∧
        Run.Completes (transformPart mode source location) front tables values between ∧
        (transformPart mode source location part).on between = (.error error, after) := by
  rw [transform_recursion Registry.standard_readsParameters, ← Run.mapM_on_eq_error_iff]
  cases template with
  | mapping fields =>
    rw [walk_mapping, walkPart_eq_transformPart, Run.on_bind_eq_error_iff]
    simp
  | sequence items =>
    rw [walk_sequence, walkPart_eq_transformPart, Run.on_bind_eq_error_iff]
    simp
  | expression | call => cases h
  | literal value => simp [walk, Template.parts]

/-! ## Calls -/

section Calls

variable {text function : String} {parameters : Fields Json}

/-- A call without callback fails before its expression is evaluated. -/
theorem transform_unknown (hrecords : function ∉ Registry.recordsNames)
    (hlookup : function ∉ Registry.lookupNames) :
    transform ⟨.standard, mode⟩ source (.call text function parameters) location =
      throw (.unknownFunction function location) := by
  rw [transform_recursion Registry.standard_readsParameters, walk,
    Registry.callback?_standard_of_notMem hrecords hlookup]

/-- A call for nested records without template fails once its expression has a value. -/
theorem transform_noTemplate (hfunction : function ∈ Registry.recordsNames)
    (hconfig : (Fields.get? "template" parameters).or
      (Fields.get? "config_json" parameters) = none) :
    transform ⟨.standard, mode⟩ source (.call text function parameters) location = (do
      let _ ← Reshape.evaluate .standard source text location
      throw (.malformed (.missingParameter "transform" "template" "config_json") location)) := by
  rw [transform_call mode (Registry.callback?_standard_records hfunction)]
  simp only [recordsCallback, Invocation.eitherParameter?, Invocation.parameter?, hconfig,
    Run.mapError_throw, Error.located_malformed]

/-- A call for nested records whose template cannot be read fails once its expression has a
value. -/
theorem transform_unreadTemplate (hfunction : function ∈ Registry.recordsNames) {config : Json}
    {fault : Malformation}
    (hconfig : (Fields.get? "template" parameters).or
      (Fields.get? "config_json" parameters) = some config)
    (hread : Template.ofConfig config = .error (.malformed fault "")) :
    transform ⟨.standard, mode⟩ source (.call text function parameters) location = (do
      let _ ← Reshape.evaluate .standard source text location
      throw (.malformed fault location)) := by
  rw [transform_call mode (Registry.callback?_standard_records hfunction)]
  simp only [recordsCallback, Invocation.eitherParameter?, Invocation.parameter?, hconfig, hread,
    Run.ofExcept, Run.throw_bind, Run.mapError_throw]
  rfl

/-- A call for a lookup table without table fails once its expression has a value. -/
theorem transform_noTable (hfunction : function ∈ Registry.lookupNames)
    (htable : (Fields.get? "table" parameters).or (Fields.get? "enum_dict" parameters) = none) :
    transform ⟨.standard, mode⟩ source (.call text function parameters) location = (do
      let _ ← Reshape.evaluate .standard source text location
      throw (.malformed (.missingParameter "enumChange" "table" "enum_dict") location)) := by
  rw [transform_call mode (Registry.callback?_standard_lookup hfunction)]
  simp only [lookupCallback, Invocation.eitherParameter?, Invocation.parameter?, htable,
    Run.mapError_throw, Error.located_malformed]

/-- A call for a lookup table with a table fails only in its expression. -/
theorem transform_lookup (hfunction : function ∈ Registry.lookupNames) {table : Json}
    (htable : (Fields.get? "table" parameters).or
      (Fields.get? "enum_dict" parameters) = some table) :
    transform ⟨.standard, mode⟩ source (.call text function parameters) location = (do
      let value ← Reshape.evaluate .standard source text location
      return if value.isNull then .null else value.lookup table) := by
  rw [transform_call mode (Registry.callback?_standard_lookup hfunction)]
  simp only [lookupCallback, Invocation.eitherParameter?, Invocation.parameter?, htable,
    Run.mapError_pure]

/-- A call that fails raises the error for itself, or a record in its value fails. -/
theorem transform_call_error
    (h : (transform ⟨.standard, mode⟩ source (.call text function parameters) location).on tables =
      (.error error, after)) :
    (Template.call text function parameters).Raises source location tables error after ∨
      function ∈ Registry.recordsNames ∧ ∃ config inner value before,
        (Fields.get? "template" parameters).or (Fields.get? "config_json" parameters) =
          some config ∧
        Template.ofConfig config = .ok inner ∧
        (Reshape.evaluate .standard source text location).on tables = (.ok value, before) ∧
        (transformRecords (transform ⟨.standard, mode⟩) inner location value).on before =
          (.error error, after) := by
  by_cases hrecords : function ∈ Registry.recordsNames
  · cases hconfig : (Fields.get? "template" parameters).or
        (Fields.get? "config_json" parameters) with
    | none =>
      rw [transform_noTemplate hrecords hconfig, Run.bind_throw_on_eq_error_iff] at h
      rcases h with h | ⟨value, hvalue, rfl⟩
      · exact .inl (.argument (.inl hrecords) h)
      · exact .inl (.noTemplate hrecords hconfig hvalue)
    | some config =>
      cases hread : Template.ofConfig config with
      | error unread =>
        obtain ⟨fault, rfl⟩ := Template.malformed_of_ofConfig hread
        rw [transform_unreadTemplate hrecords hconfig hread, Run.bind_throw_on_eq_error_iff] at h
        rcases h with h | ⟨value, hvalue, rfl⟩
        · exact .inl (.argument (.inl hrecords) h)
        · exact .inl (.unreadTemplate hrecords hconfig hread hvalue)
      | ok inner =>
        rw [transform_records mode hrecords hconfig hread, Run.on_bind_eq_error_iff] at h
        rcases h with h | ⟨value, before, hvalue, h⟩
        · exact .inl (.argument (.inl hrecords) h)
        · exact .inr ⟨hrecords, config, inner, value, before, rfl, hread, hvalue, h⟩
  by_cases hlookup : function ∈ Registry.lookupNames
  · cases htable : (Fields.get? "table" parameters).or (Fields.get? "enum_dict" parameters) with
    | none =>
      rw [transform_noTable hlookup htable, Run.bind_throw_on_eq_error_iff] at h
      rcases h with h | ⟨value, hvalue, rfl⟩
      · exact .inl (.argument (.inr hlookup) h)
      · exact .inl (.noTable hlookup htable hvalue)
    | some table =>
      rw [transform_lookup hlookup htable, Run.on_bind_eq_error_iff] at h
      rcases h with h | ⟨value, before, -, h⟩
      · exact .inl (.argument (.inr hlookup) h)
      · cases h
  · rw [transform_unknown hrecords hlookup, Run.on_throw] at h
    cases h
    exact .inl (.unknown hrecords hlookup)

end Calls

/-! ## Nodes that raise errors -/

/-- A node that raises an error fails with it. -/
theorem transform_of_raises {node : Template}
    (h : node.Raises source location tables error after) :
    (transform ⟨.standard, mode⟩ source node location).on tables = (.error error, after) := by
  cases h with
  | expression h =>
    rw [transform_recursion Registry.standard_readsParameters, walk]
    exact h
  | argument hfunction h =>
    have hcallback : ∃ callback, Registry.standard.callback? _ = some callback :=
      hfunction.elim (fun hrecords => ⟨_, Registry.callback?_standard_records hrecords⟩)
        fun hlookup => ⟨_, Registry.callback?_standard_lookup hlookup⟩
    obtain ⟨callback, hcallback⟩ := hcallback
    rw [transform_call mode hcallback]
    exact Run.on_bind_eq_error_iff.mpr (.inl h)
  | unknown hrecords hlookup => rw [transform_unknown hrecords hlookup, Run.on_throw]
  | noTemplate hfunction hconfig hvalue =>
    rw [transform_noTemplate hfunction hconfig, Run.bind_throw_on_eq_error_iff]
    exact .inr ⟨_, hvalue, rfl⟩
  | unreadTemplate hfunction hconfig hread hvalue =>
    rw [transform_unreadTemplate hfunction hconfig hread, Run.bind_throw_on_eq_error_iff]
    exact .inr ⟨_, hvalue, rfl⟩
  | noTable hfunction htable hvalue =>
    rw [transform_noTable hfunction htable, Run.bind_throw_on_eq_error_iff]
    exact .inr ⟨_, hvalue, rfl⟩

/-- A transformation that comes to a node that raises an error fails with it. -/
theorem transform_of_reaches {template node : Template} {source' : Json} {reached : Tables}
    {trail : List Step}
    (h : template.Reaches mode source location tables trail node source' reached)
    (hraises : node.Raises source' (location ++ breadcrumb trail) reached error after) :
    (transform ⟨.standard, mode⟩ source template location).on tables = (.error error, after) := by
  induction h with
  | root =>
    rw [breadcrumb, String.append_empty] at hraises
    exact transform_of_raises hraises
  | part hparts hfront _ ih =>
    rw [← placeIn_append_breadcrumb] at hraises
    rw [transform_container_on_eq_error_iff (Template.expression?_eq_none hparts)]
    exact ⟨_, _, _, _, _, hparts, hfront, ih hraises⟩
  | record hfunction hconfig hread hvalue hrecords hfront _ ih =>
    rw [breadcrumb_append, ← String.append_assoc] at hraises
    rw [transform_records mode hfunction hconfig hread, Run.on_bind_eq_error_iff]
    exact .inr ⟨_, _, hvalue, transformRecords_on_eq_error_iff.mpr
      ⟨_, _, _, _, _, hrecords, hfront, ih hraises⟩⟩

/-- A template that fails only at nodes to which its transformation comes. -/
def FailsOnlyAtNodes (mode : Mode) (template : Template) : Prop :=
  ∀ source location tables error after,
    (transform ⟨.standard, mode⟩ source template location).on tables = (.error error, after) →
      template.FailsAtNode mode source location tables error after

/-- A template fails only at nodes if the templates nested in it do. -/
theorem failsOnlyAtNodes_of_nests (mode : Mode) (template : Template)
    (hnested : ∀ nested, Template.Nests nested template → FailsOnlyAtNodes mode nested) :
    FailsOnlyAtNodes mode template := by
  induction template using Template.induction with
  | step template ih =>
    intro source location tables error after h
    have hcontainer (hnone : template.expression? = none) :
        template.FailsAtNode mode source location tables error after := by
      obtain ⟨front, ⟨step, part⟩, back, values, between, hparts, hfront, hpart⟩ :=
        (transform_container_on_eq_error_iff hnone).mp h
      have hmem : (step, part) ∈ template.parts := hparts ▸ by simp
      refine .part hparts hfront (ih _ hmem (fun nested hnests => ?_) _ _ _ _ _ hpart)
      obtain ⟨trail, text, function, parameters, hnode, hstands⟩ := hnests
      exact hnested nested ⟨_, text, function, parameters, .part hmem hnode, hstands⟩
    cases template with
    | mapping | sequence | literal => exact hcontainer rfl
    | expression text =>
      rw [transform_recursion Registry.standard_readsParameters, walk] at h
      exact .root (.expression h)
    | call text function parameters =>
      rcases transform_call_error h with hraises |
        ⟨hfunction, config, inner, value, before, hconfig, hread, hvalue, h⟩
      · exact .root hraises
      · obtain ⟨front, ⟨indexes, fields⟩, back, results, between, hrecords, hfront, hrecord⟩ :=
          transformRecords_on_eq_error_iff.mp h
        have hnests : Template.Nests inner (.call text function parameters) :=
          ⟨[], text, function, parameters, .root _, config, Json.inside_of_either hconfig, hread⟩
        exact .record hfunction hconfig hread hvalue hrecords hfront
          (hnested inner hnests _ _ _ _ _ hrecord)

/-- A transformation fails on tables exactly when it comes to a node that raises the error. -/
theorem transform_on_eq_error_iff {template : Template} :
    (transform ⟨.standard, mode⟩ source template location).on tables = (.error error, after) ↔
      template.FailsAtNode mode source location tables error after := by
  constructor
  · have hall : FailsOnlyAtNodes mode template :=
      Template.wellFounded_nests.induction template (failsOnlyAtNodes_of_nests mode)
    exact hall source location tables error after
  · rintro ⟨trail, node, source', reached, hreaches, hraises⟩
    exact transform_of_reaches hreaches hraises

/-- Every error of a transformation with the standard registry stands at the place of an
expression or a call to which the transformation comes on its tables, and it is the one that this
node raises for itself.  If it is that arguments are invalid, it names the operation of the
expression whose arguments they are. -/
theorem exists_node_of_transform_error (mode : Mode) {template : Template}
    (h : (transform ⟨.standard, mode⟩ source template location).on tables =
      (.error error, after)) :
    ∃ trail node source' reached text,
      template.Reaches mode source location tables trail node source' reached ∧
      node.expression? = some text ∧
      error.templatePlace? = some (location ++ breadcrumb trail) ∧
      node.Raises source' (location ++ breadcrumb trail) reached error after ∧
      ∀ operation place fault, error = .invalidArguments operation place fault →
        RaisedByOperation source' text (location ++ breadcrumb trail) operation reached error
          after := by
  obtain ⟨trail, node, source', reached, hreaches, hraises⟩ := transform_on_eq_error_iff.mp h
  obtain ⟨text, htext, hoperation⟩ := hraises.exists_expression
  exact ⟨trail, node, source', reached, text, hreaches, htext, hraises.templatePlace?, hraises,
    hoperation⟩

/-- The error of the operation in the template of orders stands behind the indexes of the
record. -/
theorem exists_node_of_transform_error_orders :
    ∃ after, (transform ⟨.standard, .oneToOne⟩ ordersSource ordersTemplate ".out").on
        (.ofFiles .none) =
      (.error (.invalidArguments "toString" ".out.orders.0.1.0.id" (.count 0 1)), after) ∧
    ∃ trail node source' reached text,
      ordersTemplate.Reaches .oneToOne ordersSource ".out" (.ofFiles .none) trail node source'
        reached ∧
      node.expression? = some text ∧ ".out.orders.0.1.0.id" = ".out" ++ breadcrumb trail ∧
      RaisedByOperation source' text (".out" ++ breadcrumb trail) "toString" reached
        (.invalidArguments "toString" ".out.orders.0.1.0.id" (.count 0 1)) after := by
  obtain ⟨after, hfail⟩ : ∃ after,
      (transform ⟨.standard, .oneToOne⟩ ordersSource ordersTemplate ".out").on (.ofFiles .none) =
        (.error (.invalidArguments "toString" ".out.orders.0.1.0.id" (.count 0 1)), after) :=
    ⟨_, Prod.ext (by decide +kernel) rfl⟩
  obtain ⟨trail, node, source', reached, text, hreaches, htext, hplace, -, hoperation⟩ :=
    exists_node_of_transform_error .oneToOne hfail
  exact ⟨after, hfail, trail, node, source', reached, text, hreaches, htext,
    Option.some.inj hplace, hoperation _ _ _ rfl⟩

end Transformer

end Reshape
