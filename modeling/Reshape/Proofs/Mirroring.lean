import Mathlib.Data.List.Pairwise
import Reshape.Proofs.StandardRegistry
import Reshape.Proofs.ValueParts

/-!
# Templates and their results

The result of a template without calls has the shape of the template: an object with the
same names for each mapping, an array of the same length for each sequence, and at the
trail of each expression the value that the expression has at its own place.  There is a
result exactly when every expression has a value.  Otherwise the error is that of the
first expression in document order that has none: names and indexes ascend, and what
stands below an earlier one comes first.

All this is told by trails alone.  A result is followed down the trail of a node, and the
first failing expression is found below the first part whose walk fails.

Main results:

- Definition `Template.ShownAs`: how a node of a template shows in the result.
- Theorem `Transformer.exists_part_of_walk`: each node is walked to its part of the result.
- Theorem `Transformer.exists_first_of_walk`: an error is that of the first failing
  expression.
- Theorem `Transformer.transform_pointwise`: a template and its result, node by node.
-/

namespace Reshape

/-! ## Document order -/

/-- A step that comes before another one in the same container. -/
inductive Step.Before : Step → Step → Prop
  | field {name other : String} (h : name < other) : Before (.field name) (.field other)
  | item {index other : Nat} (h : index < other) : Before (.item index) (.item other)

/-- Of two steps at most one comes first. -/
theorem Step.Before.asymm {step other : Step} (h : step.Before other) : ¬other.Before step := by
  cases h with
  | field hlt =>
    rintro (⟨hgt⟩ | _)
    exact String.lt_asymm hlt hgt
  | item hlt =>
    rintro (_ | ⟨hgt⟩)
    exact Nat.lt_asymm hlt hgt

/-- No step comes before itself. -/
theorem Step.not_before_self (step : Step) : ¬step.Before step :=
  fun h => h.asymm h

/-! ## Plain templates -/

namespace Template

/-- The names in every mapping ascend. -/
def Ascending (template : Template) : Prop :=
  ∀ trail fields, template.HasNode trail (.mapping fields) → Fields.Sorted fields

/-- No node is a call. -/
def IsPlain (template : Template) : Prop :=
  ∀ trail text function parameters, ¬template.HasNode trail (.call text function parameters)

section Parts

variable {template : Template} {part : Step × Template}

/-- The names in every mapping of a part ascend. -/
theorem Ascending.of_part (h : template.Ascending) (hpart : part ∈ template.parts) :
    part.2.Ascending :=
  fun trail fields hnode => h (part.1 :: trail) fields (.part hpart hnode)

/-- No node of a part is a call. -/
theorem IsPlain.of_part (h : template.IsPlain) (hpart : part ∈ template.parts) :
    part.2.IsPlain :=
  fun trail text function parameters hnode =>
    h (part.1 :: trail) text function parameters (.part hpart hnode)

end Parts

/-- No node of a node is a call. -/
theorem IsPlain.of_node {template node : Template} {trail : List Step} (h : template.IsPlain)
    (hnode : template.HasNode trail node) : node.IsPlain :=
  fun rest text function parameters hcall =>
    h (trail ++ rest) text function parameters (hnode.trans hcall)

/-- The parts of a template with ascending names are in document order. -/
theorem Ascending.pairwise_parts {template : Template} (h : template.Ascending) :
    template.parts.Pairwise fun a b => a.1.Before b.1 := by
  cases template with
  | mapping fields =>
    have hsorted := h [] fields (.root _)
    exact List.pairwise_map.mpr (hsorted.imp fun hlt => .field hlt)
  | sequence items =>
    exact List.pairwise_map.mpr ((pairwise_zipIdx 0 items).imp fun hlt => .item hlt)
  | expression | call | literal => exact .nil

/-- Among parts in document order, those before a part stand in front of it, and no other
part has its step. -/
theorem mem_front_of_before {front back : List (Step × Template)} {part other : Step × Template}
    (hpairwise : (front ++ part :: back).Pairwise fun a b => a.1.Before b.1)
    (hother : other ∈ front ++ part :: back) :
    (other.1.Before part.1 → other ∈ front) ∧ (other.1 = part.1 → other = part) := by
  rcases List.pairwise_append.mp hpairwise with ⟨-, htail, hcross⟩
  rcases List.mem_append.mp hother with hmem | hmem
  · refine ⟨fun _ => hmem, fun heq => ?_⟩
    have hbefore := hcross other hmem part List.mem_cons_self
    rw [heq] at hbefore
    exact (Step.not_before_self _ hbefore).elim
  · rcases List.mem_cons.mp hmem with rfl | hmem
    · exact ⟨fun h => (Step.not_before_self _ h).elim, fun _ => rfl⟩
    · have hbehind := List.rel_of_pairwise_cons htail hmem
      refine ⟨fun h => (hbehind.asymm h).elim, fun heq => ?_⟩
      rw [heq] at hbehind
      exact (Step.not_before_self _ hbehind).elim

/-- What is put under ascending names is found under them. -/
theorem exists_get?_zip {fields : List (String × Template)} (hsorted : Fields.Sorted fields)
    {values : List Json} {P : Step × Template → Json → Prop}
    (h : List.Forall₂ P (mapping fields).parts values) {part : Step × Template}
    (hpart : part ∈ (mapping fields).parts) :
    ∃ value, (Json.object ((fields.map Prod.fst).zip values)).part? part.1 = some value ∧
      P part value := by
  induction fields generalizing values with
  | nil => cases hpart
  | cons field fields ih =>
    rcases List.pairwise_cons.mp hsorted with ⟨hfirst, hrest⟩
    rcases h with _ | ⟨hfield, h⟩
    rcases List.mem_cons.mp hpart with rfl | hpart
    · exact ⟨_, by simp [Json.part?, Fields.get?], hfield⟩
    · rcases ih hrest h hpart with ⟨value, hvalue, hP⟩
      refine ⟨value, ?_, hP⟩
      rcases List.mem_map.mp hpart with ⟨other, hother, rfl⟩
      have hne : field.1 ≠ other.1 := (String.ne_of_lt (hfirst other hother))
      simpa [Json.part?, Fields.get?, hne] using hvalue

/-- What is put in the order of items is found at their indexes. -/
theorem exists_getElem?_items {items : List Template} {values : List Json}
    {P : Step × Template → Json → Prop} (h : List.Forall₂ P (sequence items).parts values)
    {part : Step × Template} (hpart : part ∈ (sequence items).parts) :
    ∃ value, (Json.array values).part? part.1 = some value ∧ P part value := by
  rcases List.mem_map.mp hpart with ⟨⟨item, index⟩, hitem, rfl⟩
  have hindex : items[index]? = some item := List.mk_mem_zipIdx_iff_getElem?.mp hitem
  rcases List.getElem?_eq_some_iff.mp hindex with ⟨hlt, hitem⟩
  rcases List.forall₂_iff_get.mp h with ⟨hlength, hget⟩
  have hparts : index < (sequence items).parts.length := by simpa [parts] using hlt
  have hvalues : index < values.length := hlength ▸ hparts
  refine ⟨values[index], List.getElem?_eq_getElem hvalues, ?_⟩
  simpa [parts, hitem] using hget index hparts hvalues

/-! ### The plain reading -/

/-- Fields are read one by one. -/
theorem ofJsonFields_eq_map (fields : List (String × Json)) :
    ofJsonFields fields = fields.map fun field => (field.1, ofJson field.2) := by
  induction fields with
  | nil => rfl
  | cons field fields ih => rw [ofJsonFields, ih, List.map_cons]

/-- Items are read one by one. -/
theorem ofJsonItems_eq_map (items : List Json) : ofJsonItems items = items.map ofJson := by
  induction items with
  | nil => rfl
  | cons item items ih => rw [ofJsonItems, ih, List.map_cons]

/-- The parts of the plain reading are the plain readings of the parts. -/
theorem parts_ofJson (v : Json) :
    (ofJson v).parts = v.parts.map fun part => (part.1, ofJson part.2) := by
  cases v with
  | object fields =>
    rw [ofJson, ofJsonFields_eq_map, parts, Json.parts, List.map_map, List.map_map]
    rfl
  | array items =>
    rw [ofJson, ofJsonItems_eq_map, parts, Json.parts, List.zipIdx_map, List.map_map, List.map_map]
    rfl
  | null | bool | number | string => rfl

/-- The parts of a value that is read are values that are read. -/
theorem exists_of_mem_parts_ofJson {v : Json} {part : Step × Template}
    (h : part ∈ (ofJson v).parts) : ∃ w, part.2 = ofJson w ∧ (v.Valid → w.Valid) := by
  rw [parts_ofJson] at h
  rcases List.mem_map.mp h with ⟨inner, hinner, rfl⟩
  exact ⟨inner.2, rfl, fun hvalid => hvalid.of_part inner hinner⟩

/-- The nodes of a value that is read are values that are read. -/
theorem exists_of_hasNode_ofJson {v : Json} {trail : List Step} {node : Template}
    (h : (ofJson v).HasNode trail node) : ∃ w, node = ofJson w ∧ (v.Valid → w.Valid) := by
  induction trail generalizing v with
  | nil =>
    cases h
    exact ⟨v, rfl, id⟩
  | cons step trail ih =>
    rcases h with _ | ⟨hpart, hnode⟩
    rcases exists_of_mem_parts_ofJson hpart with ⟨w, rfl, hw⟩
    rcases ih hnode with ⟨u, hu, huw⟩
    exact ⟨u, hu, fun hvalid => huw (hw hvalid)⟩

/-- The plain reading makes no calls. -/
theorem isPlain_ofJson (v : Json) : (ofJson v).IsPlain := by
  intro trail text function parameters hnode
  rcases exists_of_hasNode_ofJson hnode with ⟨w, hw, -⟩
  cases w <;> cases hw

/-- The plain reading keeps names ascending. -/
theorem ascending_ofJson {v : Json} (h : v.Valid) : (ofJson v).Ascending := by
  intro trail fields hnode
  rcases exists_of_hasNode_ofJson hnode with ⟨w, hw, hvalid⟩
  cases w with
  | object values =>
    obtain rfl : fields = ofJsonFields values := Template.mapping.inj hw
    rw [ofJsonFields_eq_map]
    exact List.pairwise_map.mpr (hvalid h).1
  | null | bool | number | string | array => cases hw

/-! ### Nodes and their results -/

/-- How a node of a template shows in the result, given the source and the place of the
node. -/
def ShownAs (r : Registry) (source : Json) (place : String) : Template → Json → Prop
  | mapping fields, .object values => Fields.names values = Fields.names fields
  | sequence items, .array values => values.length = items.length
  | expression text, value => evaluate r source text place = pure value
  | literal constant, value => value = constant
  | _, _ => False

end Template

/-! ## Pure registries -/

/-- The operations neither read nor change tables. -/
def Registry.IsPure (r : Registry) : Prop :=
  ∀ name operation, r.operation? name = some operation →
    ∀ value arguments, (operation value arguments).IsPure

/-- An entry of the catalog is a function of its values. -/
theorem Catalog.Entry.registered_isPure (entry : Entry) (value : Json) (arguments : List Json) :
    (entry.registered value arguments).IsPure := by
  have hoperation : (entry.operation value arguments).IsPure := by
    unfold Entry.operation
    split
    · exact Run.isPure_pure _
    · exact Run.isPure_throw _
  unfold Entry.registered
  split
  · unfold Operation.maybe
    split
    · exact Run.isPure_pure _
    · exact hoperation
  · exact hoperation

/-- The catalog is pure. -/
theorem Registry.isPure_catalog : Registry.catalog.IsPure := by
  intro name operation hoperation value arguments
  rcases exists_entry_of_operation?_catalog hoperation with ⟨entry, -, -, rfl⟩
  exact entry.registered_isPure value arguments

section Pure

variable {r : Registry} (hpure : r.IsPure)

include hpure

/-- An operation by name is pure. -/
theorem applyOperation_isPure (value : Json) (name : String) (arguments : List Json)
    (location : String) : (applyOperation r value name arguments location).IsPure := by
  unfold applyOperation
  split
  · rename_i operation hoperation
    exact (hpure name operation hoperation value arguments).mapError _
  · split
    · exact Run.isPure_pure _
    · split
      · split
        · exact Run.isPure_pure _
        · exact Run.isPure_throw _
      · exact Run.isPure_throw _

/-- Stages are pure. -/
theorem runStages_isPure (source : Json) (location : String) (prior : Segment) (value : Json)
    (stages : List Segment) : (runStages r source location prior value stages).IsPure := by
  induction stages generalizing prior value with
  | nil => exact Run.isPure_pure value
  | cons stage stages ih =>
    cases stage with
    | nil => exact Run.isPure_throw _
    | cons name arguments =>
      rw [runStages]
      exact (applyOperation_isPure hpure value _ _ location).bind fun value => ih _ value

/-- Expressions are pure. -/
theorem evaluate_isPure (source : Json) (text location : String) :
    (evaluate r source text location).IsPure := by
  unfold evaluate
  split
  · exact Run.isPure_pure _
  · split
    · exact Run.isPure_pure _
    · split
      · exact Run.isPure_throw _
      · exact Run.isPure_pure _
      · exact runStages_isPure hpure source location _ _ _

end Pure

/-! ## Walks -/

namespace Transformer

variable {r : Registry} (hpure : r.IsPure) {engine : Engine} {source : Json}

include hpure

/-- A walk over a plain template is pure. -/
theorem walk_isPure {template : Template} (hplain : template.IsPlain) (location : String) :
    (walk r engine source location template).IsPure := by
  induction template using Template.induction generalizing location with
  | step template ih =>
    have hparts : (template.parts.mapM (walkPart r engine source location)).IsPure :=
      Run.IsPure.mapM fun part hpart => ih part hpart (hplain.of_part hpart) _
    cases template with
    | mapping fields =>
      rw [walk_mapping]
      exact hparts.bind fun values => Run.isPure_pure _
    | sequence items =>
      rw [walk_sequence]
      exact hparts.bind fun values => Run.isPure_pure _
    | expression text =>
      rw [walk]
      exact evaluate_isPure hpure source text location
    | call text function parameters => exact (hplain [] text function parameters (.root _)).elim
    | literal value =>
      rw [walk]
      exact Run.isPure_pure value

/-- The parts of a result are the values of the parts of its template. -/
theorem exists_part_of_walk_part {template : Template} (hplain : template.IsPlain)
    (hascending : template.Ascending) {part : Step × Template} (hpart : part ∈ template.parts)
    {location : String} {value : Json}
    (h : walk r engine source location template = pure value) :
    ∃ result, value.part? part.1 = some result ∧
      walkPart r engine source location part = pure result := by
  have hparts : ∀ part ∈ template.parts, (walkPart r engine source location part).IsPure :=
    fun part hpart => walk_isPure hpure (hplain.of_part hpart) _
  cases template with
  | mapping fields =>
    rw [walk_mapping] at h
    rcases (Run.IsPure.mapM hparts).exists_of_bind_eq_pure h with ⟨values, hvalues, h⟩
    obtain rfl := Run.pure_inj h
    exact Template.exists_get?_zip (hascending [] fields (.root _))
      (Run.forall₂_of_mapM_eq_pure hparts hvalues) hpart
  | sequence items =>
    rw [walk_sequence] at h
    rcases (Run.IsPure.mapM hparts).exists_of_bind_eq_pure h with ⟨values, hvalues, h⟩
    obtain rfl := Run.pure_inj h
    exact Template.exists_getElem?_items (Run.forall₂_of_mapM_eq_pure hparts hvalues) hpart
  | expression | call | literal => cases hpart

/-- Every node of a template is walked to the part of the result at its trail. -/
theorem exists_part_of_walk {template node : Template} {trail : List Step}
    (hnode : template.HasNode trail node) (hplain : template.IsPlain)
    (hascending : template.Ascending) {location : String} {value : Json}
    (h : walk r engine source location template = pure value) :
    ∃ part, value.partAt? trail = some part ∧
      walk r engine source (location ++ breadcrumb trail) node = pure part := by
  induction hnode generalizing location value with
  | root template => exact ⟨value, rfl, by simpa [breadcrumb] using h⟩
  | part hpart hnode ih =>
    rcases exists_part_of_walk_part hpure hplain hascending hpart h with ⟨inner, hinner, hwalk⟩
    rcases ih (hplain.of_part hpart) (hascending.of_part hpart) hwalk with ⟨part, hpartAt, hpart⟩
    rw [placeIn_append_breadcrumb] at hpart
    refine ⟨part, ?_, hpart⟩
    rw [Json.partAt?_cons, hinner]
    exact hpartAt

/-- A walk over a plain template that fails does so at an expression, or at the first part
whose walk fails. -/
theorem walk_eq_throw_cases {template : Template} (hplain : template.IsPlain)
    {location : String} {error : Error}
    (h : walk r engine source location template = throw error) :
    (∃ text, template = .expression text) ∨
    ∃ front part back, template.parts = front ++ part :: back ∧
      (∀ other ∈ front, ∃ value, walkPart r engine source location other = pure value) ∧
      walkPart r engine source location part = throw error := by
  have hparts : ∀ part ∈ template.parts, (walkPart r engine source location part).IsPure :=
    fun part hpart => walk_isPure hpure (hplain.of_part hpart) _
  have hfirst (h : template.parts.mapM (walkPart r engine source location) = throw error) :
      ∃ front part back, template.parts = front ++ part :: back ∧
        (∀ other ∈ front, ∃ value, walkPart r engine source location other = pure value) ∧
        walkPart r engine source location part = throw error := by
    rcases Run.mapM_cases hparts with ⟨values, hvalues, -⟩ |
      ⟨front, part, back, first, hsplit, hfront, hpart, hthrow⟩
    · exact (Run.throw_ne_pure error values (h.symm.trans hvalues)).elim
    · obtain rfl := Run.throw_inj (h.symm.trans hthrow)
      exact ⟨front, part, back, hsplit, hfront, hpart⟩
  cases template with
  | mapping fields =>
    rw [walk_mapping] at h
    exact .inr (hfirst ((Run.IsPure.mapM hparts).eq_throw_of_bind h))
  | sequence items =>
    rw [walk_sequence] at h
    exact .inr (hfirst ((Run.IsPure.mapM hparts).eq_throw_of_bind h))
  | expression text => exact .inl ⟨text, rfl⟩
  | call text function parameters => exact (hplain [] text function parameters (.root _)).elim
  | literal value =>
    rw [walk] at h
    exact (Run.throw_ne_pure error value h.symm).elim

/-- A walk over a plain template that fails does so with the error of an expression, and
every expression before it in document order has a value. -/
theorem exists_first_of_walk {template : Template} (hplain : template.IsPlain)
    (hascending : template.Ascending) {location : String} {error : Error}
    (h : walk r engine source location template = throw error) :
    ∃ trail text, template.HasNode trail (.expression text) ∧
      Reshape.evaluate r source text (location ++ breadcrumb trail) = throw error ∧
      ∀ earlier text', template.HasNode earlier (.expression text') →
        List.Lex Step.Before earlier trail →
        ∃ value, Reshape.evaluate r source text' (location ++ breadcrumb earlier) = pure value := by
  induction template using Template.induction generalizing location with
  | step template ih =>
    rcases walk_eq_throw_cases hpure hplain h with ⟨text, rfl⟩ |
      ⟨front, part, back, hsplit, hfront, hfail⟩
    · refine ⟨[], text, .root _, by simpa [breadcrumb, walk] using h, ?_⟩
      rintro earlier text' - hlex
      cases hlex
    · have hmem : part ∈ template.parts := by simp [hsplit]
      rcases ih part hmem (hplain.of_part hmem) (hascending.of_part hmem) hfail with
        ⟨trail, text, hnode, htext, hearlier⟩
      refine ⟨part.1 :: trail, text, .part hmem hnode, ?_, ?_⟩
      · rwa [placeIn_append_breadcrumb] at htext
      · intro earlier text' hnode' hlex
        cases hnode' with
        | root => cases hmem
        | @part _ inner _ step rest hinner hnode' =>
          have hpairwise := hascending.pairwise_parts
          rw [hsplit] at hpairwise
          have hpossible := Template.mem_front_of_before hpairwise (hsplit ▸ hinner)
          cases hlex with
          | rel hbefore =>
            -- The leaf stands below an earlier part, whose walk gives a value.
            rcases hfront _ (hpossible.1 hbefore) with ⟨value, hvalue⟩
            rcases exists_part_of_walk hpure hnode' (hplain.of_part hinner)
              (hascending.of_part hinner) hvalue with ⟨result, -, hresult⟩
            rw [placeIn_append_breadcrumb, walk] at hresult
            exact ⟨result, hresult⟩
          | cons hlex =>
            obtain rfl : inner = part.2 := congrArg Prod.snd (hpossible.2 rfl)
            have := hearlier rest text' hnode' hlex
            rwa [placeIn_append_breadcrumb] at this

/-- A node shows in what it is walked to. -/
theorem shownAs_of_walk {node : Template} (hplain : node.IsPlain) {place : String} {part : Json}
    (h : walk r engine source place node = pure part) : node.ShownAs r source place part := by
  have hparts : ∀ part ∈ node.parts, (walkPart r engine source place part).IsPure :=
    fun part hpart => walk_isPure hpure (hplain.of_part hpart) _
  cases node with
  | mapping fields =>
    rw [walk_mapping] at h
    rcases (Run.IsPure.mapM hparts).exists_of_bind_eq_pure h with ⟨values, hvalues, h⟩
    obtain rfl := Run.pure_inj h
    have hlength := (Run.forall₂_of_mapM_eq_pure hparts hvalues).length_eq
    have hle : (fields.map Prod.fst).length ≤ values.length := by
      simpa [Template.parts] using Nat.le_of_eq hlength
    exact List.map_fst_zip hle
  | sequence items =>
    rw [walk_sequence] at h
    rcases (Run.IsPure.mapM hparts).exists_of_bind_eq_pure h with ⟨values, hvalues, h⟩
    obtain rfl := Run.pure_inj h
    have hlength := (Run.forall₂_of_mapM_eq_pure hparts hvalues).length_eq
    have hvalues : values.length = items.length := by
      simpa [Template.parts] using hlength.symm
    exact hvalues
  | expression text =>
    rw [walk] at h
    exact h
  | call text function parameters => exact (hplain [] text function parameters (.root _)).elim
  | literal value =>
    rw [walk] at h
    exact (Run.pure_inj h).symm

end Transformer

/-! ## Transformations -/

/-- What a run has to do with a template leaf by leaf: it is a value or an error; each node
shows in the value at its trail; there is a value exactly when every expression has one;
and an error is that of the first expression in document order that has none. -/
structure Template.MirroredBy (template : Template) (r : Registry) (source : Json)
    (location : String) (run : Run Json) : Prop where
  settled : (∃ value, run = pure value) ∨ ∃ error, run = throw error
  shown : ∀ value, run = pure value → ∀ trail node, template.HasNode trail node →
    ∃ part, value.partAt? trail = some part ∧
      node.ShownAs r source (location ++ breadcrumb trail) part
  succeeds : (∃ value, run = pure value) ↔
    ∀ trail text, template.HasNode trail (.expression text) →
      ∃ value, evaluate r source text (location ++ breadcrumb trail) = pure value
  fails : ∀ error, run = throw error →
    ∃ trail text, template.HasNode trail (.expression text) ∧
      evaluate r source text (location ++ breadcrumb trail) = throw error ∧
      ∀ earlier text', template.HasNode earlier (.expression text') →
        List.Lex Step.Before earlier trail →
        ∃ value, evaluate r source text' (location ++ breadcrumb earlier) = pure value

namespace Transformer

/-- With pure operations, the result of a template without calls mirrors the template. -/
theorem transform_pointwise (t : Transformer) (hpure : t.registry.IsPure) {template : Template}
    (hplain : template.IsPlain) (hascending : template.Ascending) (source : Json)
    (location : String) :
    template.MirroredBy t.registry source location (t.transform source template location) := by
  rw [transform_eq_walk]
  have hwalk : (walk t.registry (t.engine (t.transformWithin template.callDepth)) source location
      template).IsPure := walk_isPure hpure hplain location
  have hsettled := Run.isPure_iff.mp hwalk
  refine ⟨hsettled, ?_, ⟨?_, ?_⟩, fun error h => exists_first_of_walk hpure hplain hascending h⟩
  · intro value h trail node hnode
    rcases exists_part_of_walk hpure hnode hplain hascending h with ⟨part, hpart, hwalk⟩
    exact ⟨part, hpart, shownAs_of_walk hpure (hplain.of_node hnode) hwalk⟩
  · rintro ⟨value, h⟩ trail text hnode
    rcases exists_part_of_walk hpure hnode hplain hascending h with ⟨part, -, hwalk⟩
    exact ⟨part, by simpa [walk] using hwalk⟩
  · intro hvalues
    rcases hsettled with h | ⟨error, h⟩
    · exact h
    · rcases exists_first_of_walk hpure hplain hascending h with ⟨trail, text, hnode, htext, -⟩
      rcases hvalues trail text hnode with ⟨value, hvalue⟩
      exact (Run.throw_ne_pure error value (htext.symm.trans hvalue)).elim

/-- A template with an expression that has a value, and two that have none. -/
def contactTemplate : Json :=
  .object [("city", .array [.bool true, .string "address.city $ upper"]),
    ("id", .object [("key", .string "id $ missing")]), ("tag", .string "tag $")]

/-- A template of the plain reading with operations of the catalog. -/
theorem transform_pointwise_contact :
    Registry.catalog.IsPure ∧ (Template.ofJson contactTemplate).IsPlain ∧
      (Template.ofJson contactTemplate).Ascending ∧
      (Template.ofJson contactTemplate).MirroredBy .catalog .null ".out"
        (transform ⟨.catalog, .oneToOne⟩ .null (Template.ofJson contactTemplate) ".out") := by
  have hplain := Template.isPlain_ofJson contactTemplate
  have hascending : (Template.ofJson contactTemplate).Ascending := by
    apply Template.ascending_ofJson
    simp only [contactTemplate, Json.Valid, Json.ValidFields, Json.ValidItems, Fields.Sorted,
      List.pairwise_cons, List.Pairwise.nil, List.mem_cons, List.not_mem_nil, or_false,
      forall_eq_or_imp, forall_eq, false_implies, implies_true]
    decide
  have hpure := Registry.isPure_catalog
  exact ⟨hpure, hplain, hascending,
    transform_pointwise ⟨.catalog, .oneToOne⟩ hpure hplain hascending .null ".out"⟩

end Transformer

end Reshape
