import Reshape.Proofs.ErrorPlaces
import Reshape.Proofs.Mirroring
import Reshape.Proofs.ValueGrammar

/-!
# Call objects

In the reading with calls an object that has values under both marked keys is a call, at
any depth, but what stands inside of it is left as it is: its other fields are the
parameters.  Outside of these objects the reading is the plain one, part by part, so what
is read below a step is the reading of what stands below that step.

Hence the template has the trails that do not enter a call object, with a call at each
call object and the head of the plain reading everywhere else.  Nothing is lost: the
template is written as the value it was read from, but for the one alias of a function.

Main results:

- Definition `Json.IsCallObject`: the objects that are calls.
- Definition `Json.Outside`: what stands at a trail and inside of no call object.
- Theorem `Template.ofConfig_eq_mapM`: a value is read part by part.
- Theorem `Template.exists_node_of_outside`, `Template.exists_outside_of_hasNode`: the
  nodes of the template and the values they are read from.
- Theorem `Template.toJson_of_ofConfig`: the template is written as its value.
- Theorem `Template.ofConfig_exact`: the reading with calls, node by node.
-/

namespace Reshape

/-! ## Call objects -/

namespace Json

/-- An object that has a value other than null under both marked keys. -/
def IsCallObject : Json → Prop
  | object fields => (∃ value, Fields.get? sourceKey fields = some value ∧ value ≠ null) ∧
      ∃ value, Fields.get? functionKey fields = some value ∧ value ≠ null
  | _ => False

/-- Call objects are what is read as a call. -/
theorem isCallObject_object {fields : Fields Json} :
    (object fields).IsCallObject ↔ Template.isCall fields := by
  have hnull (value : Json) : value ≠ null ↔ value.isNull = false := by
    cases value <;> simp [isNull]
  have hpresent (key : String) : (∃ value, Fields.get? key fields = some value ∧ value ≠ null) ↔
      (Fields.get? key fields).any fun value => !value.isNull := by
    cases Fields.get? key fields <;> simp [hnull]
  rw [IsCallObject, Template.isCall, Bool.and_eq_true, hpresent, hpresent]

/-- A value that stands at a trail in another one, inside of no call object. -/
inductive Outside : Json → List Step → Json → Prop
  | root (v : Json) : Outside v [] v
  | part {v part inner : Json} {step : Step} {trail : List Step} (hcall : ¬v.IsCallObject)
      (hpart : (step, part) ∈ v.parts) (hinner : Outside part trail inner) :
      Outside v (step :: trail) inner

/-- The object of a call with the name that its function goes by. -/
def unaliasedCall (fields : Fields Json) : Fields Json :=
  if Fields.get? functionKey fields = some (string "list") then
    Fields.set functionKey (string "transform") fields
  else fields

mutual

/-- A value with the alias of a function replaced in all call objects. -/
def unaliased : Json → Json
  | object fields =>
    if Template.isCall fields then object (unaliasedCall fields)
    else object (unaliasedFields fields)
  | array items => array (unaliasedItems items)
  | v => v

/-- Items with the alias replaced. -/
def unaliasedItems : List Json → List Json
  | [] => []
  | item :: items => unaliased item :: unaliasedItems items

/-- Fields with the alias replaced in their values. -/
def unaliasedFields : List (String × Json) → List (String × Json)
  | [] => []
  | (name, value) :: fields => (name, unaliased value) :: unaliasedFields fields

end

end Json

namespace Template

/-! ## Reading part by part -/

/-- The template that a value is read as, given those of its parts. -/
def assemble : Json → List Template → Template
  | .object fields, templates => mapping ((fields.map Prod.fst).zip templates)
  | .array _, templates => sequence templates
  | .string text, _ => expression text
  | value, _ => literal value

/-- Fields are read as parts. -/
theorem ofConfigFields_eq_mapM (fields : List (String × Json)) :
    ofConfigFields fields = (do
      let templates ← (Json.object fields).parts.mapM fun part => ofConfig part.2
      return (fields.map Prod.fst).zip templates) := by
  induction fields with
  | nil => rfl
  | cons field fields ih =>
    rcases field with ⟨name, value⟩
    rw [ofConfigFields, ih]
    simp [Json.parts]

/-- Items are read as parts. -/
theorem ofConfigItems_eq_mapM (index : Nat) (items : List Json) :
    ofConfigItems items = ((items.zipIdx index).map fun item => (Step.item item.2, item.1)).mapM
      fun part => ofConfig part.2 := by
  induction items generalizing index with
  | nil => rfl
  | cons item items ih =>
    rw [ofConfigItems, ih (index + 1)]
    simp

/-- What is no call object is read part by part. -/
theorem ofConfig_eq_mapM {v : Json} (h : ¬v.IsCallObject) :
    ofConfig v = (do
      let templates ← v.parts.mapM fun part => ofConfig part.2
      return assemble v templates) := by
  cases v with
  | object fields =>
    rw [Json.isCallObject_object] at h
    rw [ofConfig, if_neg h, ofConfigFields_eq_mapM]
    cases (Json.object fields).parts.mapM fun part => ofConfig part.2 <;> rfl
  | array items =>
    have hitems : ofConfigItems items = (Json.array items).parts.mapM fun part =>
        ofConfig part.2 := ofConfigItems_eq_mapM 0 items
    rw [ofConfig, hitems]
    cases (Json.array items).parts.mapM fun part => ofConfig part.2 <;> rfl
  | null | bool | number | string => rfl

/-- What is no call object is read as the templates of its parts put together. -/
theorem ofConfig_eq_ok_iff {v : Json} (h : ¬v.IsCallObject) {spec : Template} :
    ofConfig v = .ok spec ↔ ∃ templates,
      List.Forall₂ (fun part template => ofConfig part.2 = .ok template) v.parts templates ∧
        assemble v templates = spec := by
  rw [ofConfig_eq_mapM h, bind_eq_ok_iff]
  simp only [mapM_eq_ok_iff, pure, Except.pure, Except.ok.injEq]

/-- A call object is read as a call when it has strings under both marked keys. -/
theorem ofConfig_callObject_iff {fields : Fields Json} (h : (Json.object fields).IsCallObject)
    {spec : Template} :
    ofConfig (.object fields) = .ok spec ↔ ∃ text name,
      Fields.get? sourceKey fields = some (.string text) ∧
      Fields.get? functionKey fields = some (.string name) ∧
      spec = call text (functionNamed name)
        (Fields.erase functionKey (Fields.erase sourceKey fields)) := by
  have hmarked (key text : String) : markedString key fields = .ok text ↔
      Fields.get? key fields = some (.string text) := by
    unfold markedString
    split <;> simp_all
  rw [ofConfig, if_pos (Json.isCallObject_object.mp h), callOfFields, bind_eq_ok_iff]
  simp only [bind_eq_ok_iff, hmarked, pure, Except.pure, Except.ok.injEq]
  constructor
  · rintro ⟨text, htext, name, hname, rfl⟩
    exact ⟨text, name, htext, hname, rfl⟩
  · rintro ⟨text, name, htext, hname, rfl⟩
    exact ⟨text, htext, name, hname, rfl⟩

/-! ## Heads and parts -/

/-- Templates of the same kind: mappings with the same names, sequences of the same length,
the same expression, or the same literal. -/
def SameHead : Template → Template → Prop
  | mapping fields, mapping others => Fields.names fields = Fields.names others
  | sequence items, sequence others => items.length = others.length
  | expression text, expression other => text = other
  | literal value, literal other => value = other
  | _, _ => False

/-- Items put in the place of others have their steps. -/
theorem zipIdx_map_eq_zip (index : Nat) {items : List Json} {templates : List Template}
    (h : templates.length = items.length) :
    ((templates.zipIdx index).map fun item => (Step.item item.2, item.1)) =
      ((items.zipIdx index).map fun item => Step.item item.2).zip templates := by
  induction items generalizing templates index with
  | nil =>
    rw [List.length_eq_zero_iff.mp h]
    rfl
  | cons item items ih =>
    rcases List.exists_cons_of_length_eq_add_one h with ⟨template, templates, rfl⟩
    simp only [List.zipIdx_cons, List.map_cons, List.zip_cons_cons]
    rw [ih (index + 1) (Nat.succ.inj h)]

section Assembling

variable {v : Json} {templates : List Template}

/-- The parts of what is put together are the given templates at the steps of the value. -/
theorem parts_assemble (h : templates.length = v.parts.length) :
    (assemble v templates).parts = (v.parts.map Prod.fst).zip templates := by
  cases v with
  | object fields => simp [assemble, parts, Json.parts, List.zip_map_left]
  | array items =>
    rw [Json.parts, List.length_map, List.length_zipIdx] at h
    rw [assemble, parts, zipIdx_map_eq_zip 0 h, Json.parts, List.map_map]
    rfl
  | null | bool | number | string => simp [assemble, parts, Json.parts]

/-- What is put together has the head of the plain reading. -/
theorem sameHead_assemble (h : templates.length = v.parts.length) :
    (assemble v templates).SameHead (ofJson v) := by
  cases v with
  | object fields =>
    rw [Json.parts, List.length_map] at h
    rw [assemble, ofJson, SameHead, ofJsonFields_eq_map, Fields.names, Fields.names,
      List.map_fst_zip (by simp [h]), List.map_map]
    rfl
  | array items =>
    rw [Json.parts, List.length_map, List.length_zipIdx] at h
    rw [assemble, ofJson, SameHead, ofJsonItems_eq_map, List.length_map, h]
  | null | bool | number | string => rfl

end Assembling

/-- The plain reading puts the plain readings of the parts together. -/
theorem ofJson_eq_assemble (v : Json) :
    ofJson v = assemble v (v.parts.map fun part => ofJson part.2) := by
  cases v with
  | object fields =>
    rw [ofJson, ofJsonFields_eq_map, assemble, Json.parts, List.map_map, List.zip_map']
    rfl
  | array items =>
    have hitems : items.map ofJson = (items.zipIdx.map Prod.fst).map ofJson := by
      rw [List.zipIdx_map_fst]
    rw [ofJson, ofJsonItems_eq_map, hitems, assemble, Json.parts, List.map_map, List.map_map]
    rfl
  | null | bool | number | string => rfl

/-! ## Nodes -/

section Pairs

variable {P : Step × Json → Template → Prop} {parts : List (Step × Json)}
  {templates : List Template} (h : List.Forall₂ P parts templates)

include h

/-- Each part has a template at its step. -/
theorem exists_mem_zip {part : Step × Json} (hpart : part ∈ parts) :
    ∃ template, (part.1, template) ∈ (parts.map Prod.fst).zip templates ∧ P part template := by
  induction h with
  | nil => cases hpart
  | cons hfirst _ ih =>
    rcases List.mem_cons.mp hpart with rfl | hpart
    · exact ⟨_, List.mem_cons_self, hfirst⟩
    · rcases ih hpart with ⟨template, hmem, htemplate⟩
      exact ⟨template, List.mem_cons_of_mem _ hmem, htemplate⟩

/-- Each template at a step is that of a part. -/
theorem exists_of_mem_zip {pair : Step × Template}
    (hpair : pair ∈ (parts.map Prod.fst).zip templates) :
    ∃ part ∈ parts, part.1 = pair.1 ∧ P part pair.2 := by
  induction h with
  | nil => cases hpair
  | cons hfirst _ ih =>
    rcases List.mem_cons.mp hpair with rfl | hpair
    · exact ⟨_, List.mem_cons_self, rfl, hfirst⟩
    · rcases ih hpair with ⟨part, hmem, hpart⟩
      exact ⟨part, List.mem_cons_of_mem _ hmem, hpart⟩

end Pairs

section Nodes

variable {v : Json} {spec : Template}

/-- Each part of what is no call object is read as a part of the template. -/
theorem exists_part_of_mem_parts (hcall : ¬v.IsCallObject) (h : ofConfig v = .ok spec)
    {part : Step × Json} (hpart : part ∈ v.parts) :
    ∃ template, (part.1, template) ∈ spec.parts ∧ ofConfig part.2 = .ok template := by
  rcases (ofConfig_eq_ok_iff hcall).mp h with ⟨templates, hparts, rfl⟩
  rw [parts_assemble hparts.length_eq.symm]
  exact exists_mem_zip hparts hpart

/-- Each part of the template of what is no call object is read from a part. -/
theorem exists_of_mem_parts (hcall : ¬v.IsCallObject) (h : ofConfig v = .ok spec)
    {part : Step × Template} (hpart : part ∈ spec.parts) :
    ∃ inner, (part.1, inner) ∈ v.parts ∧ ofConfig inner = .ok part.2 := by
  rcases (ofConfig_eq_ok_iff hcall).mp h with ⟨templates, hparts, rfl⟩
  rw [parts_assemble hparts.length_eq.symm] at hpart
  rcases exists_of_mem_zip hparts hpart with ⟨inner, hinner, hstep, hread⟩
  exact ⟨inner.2, hstep ▸ hinner, hread⟩

/-- What is no call object is read with the head of the plain reading. -/
theorem sameHead_of_ofConfig (hcall : ¬v.IsCallObject) (h : ofConfig v = .ok spec) :
    spec.SameHead (ofJson v) := by
  rcases (ofConfig_eq_ok_iff hcall).mp h with ⟨templates, hparts, rfl⟩
  exact sameHead_assemble hparts.length_eq.symm

/-- Call objects are read as calls, and nothing else is. -/
theorem isCallObject_iff_of_ofConfig (h : ofConfig v = .ok spec) :
    v.IsCallObject ↔ ∃ text function parameters, spec = call text function parameters := by
  constructor
  · intro hcall
    cases v with
    | object fields =>
      rcases (ofConfig_callObject_iff hcall).mp h with ⟨text, name, -, -, rfl⟩
      exact ⟨text, _, _, rfl⟩
    | null | bool | number | string | array => cases hcall
  · rintro ⟨text, function, parameters, rfl⟩
    by_contra hcall
    have hhead := sameHead_of_ofConfig hcall h
    cases v <;> cases hhead

end Nodes

/-- What stands outside of call objects is read as a node of the template. -/
theorem exists_node_of_outside {c v : Json} {trail : List Step} {spec : Template}
    (hv : c.Outside trail v) (h : ofConfig c = .ok spec) :
    ∃ node, spec.HasNode trail node ∧ ofConfig v = .ok node := by
  induction hv generalizing spec with
  | root => exact ⟨spec, .root spec, h⟩
  | part hcall hpart _ ih =>
    rcases exists_part_of_mem_parts hcall h hpart with ⟨template, htemplate, hread⟩
    rcases ih hread with ⟨node, hnode, hread⟩
    exact ⟨node, .part htemplate hnode, hread⟩

/-- The nodes of the template are read from what stands outside of call objects. -/
theorem exists_outside_of_hasNode {c : Json} {spec node : Template} {trail : List Step}
    (hnode : spec.HasNode trail node) (h : ofConfig c = .ok spec) :
    ∃ v, c.Outside trail v ∧ ofConfig v = .ok node := by
  induction hnode generalizing c with
  | root => exact ⟨c, .root c, h⟩
  | part hpart _ ih =>
    have hcall : ¬c.IsCallObject := by
      intro hcall
      rcases (isCallObject_iff_of_ofConfig h).mp hcall with ⟨text, function, parameters, rfl⟩
      cases hpart
    rcases exists_of_mem_parts hcall h hpart with ⟨inner, hinner, hread⟩
    rcases ih hread with ⟨v, hv, hread⟩
    exact ⟨v, .part hcall hinner hv, hread⟩

/-- What stands outside of call objects has its plain reading in that of the whole. -/
theorem hasNode_ofJson_of_outside {c v : Json} {trail : List Step} (hv : c.Outside trail v) :
    (ofJson c).HasNode trail (ofJson v) := by
  induction hv with
  | root => exact .root _
  | part _ hpart _ ih =>
    refine .part ?_ ih
    rw [parts_ofJson]
    exact List.mem_map_of_mem (f := fun part => (part.1, ofJson part.2)) hpart

/-! ## Success -/

/-- What is no call object can be read when its parts can. -/
theorem exists_ofConfig_of_parts {v : Json} (hcall : ¬v.IsCallObject)
    (h : ∀ part ∈ v.parts, ∃ template, ofConfig part.2 = .ok template) :
    ∃ spec, ofConfig v = .ok spec := by
  have hparts : ∃ templates, List.Forall₂
      (fun part template => ofConfig part.2 = .ok template) v.parts templates := by
    generalize v.parts = inner at h
    induction inner with
    | nil => exact ⟨[], .nil⟩
    | cons part inner ih =>
      rw [List.forall_mem_cons] at h
      rcases h.1 with ⟨template, hread⟩
      rcases ih h.2 with ⟨templates, hparts⟩
      exact ⟨template :: templates, .cons hread hparts⟩
  rcases hparts with ⟨templates, hparts⟩
  exact ⟨_, (ofConfig_eq_ok_iff hcall).mpr ⟨templates, hparts, rfl⟩⟩

/-- A value can be read when all its call objects have strings under both marked keys. -/
theorem exists_ofConfig_iff {c : Json} :
    (∃ spec, ofConfig c = .ok spec) ↔
      ∀ trail fields, c.Outside trail (.object fields) → (Json.object fields).IsCallObject →
        (∃ text, Fields.get? sourceKey fields = some (.string text)) ∧
        ∃ name, Fields.get? functionKey fields = some (.string name) := by
  constructor
  · rintro ⟨spec, h⟩ trail fields hfields hcall
    rcases exists_node_of_outside hfields h with ⟨node, -, hread⟩
    rcases (ofConfig_callObject_iff hcall).mp hread with ⟨text, name, htext, hname, -⟩
    exact ⟨⟨text, htext⟩, name, hname⟩
  · intro h
    induction c using Json.induction with
    | step c ih =>
      by_cases hcall : c.IsCallObject
      · cases c with
        | object fields =>
          rcases h [] fields (.root _) hcall with ⟨⟨text, htext⟩, name, hname⟩
          exact ⟨_, (ofConfig_callObject_iff hcall).mpr ⟨text, name, htext, hname, rfl⟩⟩
        | null | bool | number | string | array => cases hcall
      · exact exists_ofConfig_of_parts hcall fun part hpart => ih part hpart
          fun trail fields hfields => h (part.1 :: trail) fields (.part hcall hpart hfields)

/-- Without call objects the reading is the plain one. -/
theorem ofConfig_eq_ofJson {c : Json} (h : ∀ trail v, c.Outside trail v → ¬v.IsCallObject) :
    ofConfig c = .ok (ofJson c) := by
  induction c using Json.induction with
  | step c ih =>
    have hcall := h [] c (.root c)
    refine (ofConfig_eq_ok_iff hcall).mpr ⟨_, ?_, (ofJson_eq_assemble c).symm⟩
    rw [List.forall₂_map_right_iff, List.forall₂_same]
    exact fun part hpart => ih part hpart fun trail v hv =>
      h (part.1 :: trail) v (.part hcall hpart hv)

/-! ## Writing -/

/-- The call of a call object is written as that object. -/
theorem toJson_call {fields : Fields Json} (hsorted : Fields.Sorted fields) {text name : String}
    (htext : Fields.get? sourceKey fields = some (.string text))
    (hname : Fields.get? functionKey fields = some (.string name)) :
    (call text (functionNamed name)
      (Fields.erase functionKey (Fields.erase sourceKey fields))).toJson =
        .object (Json.unaliasedCall fields) := by
  have hwritten : Fields.Sorted (Fields.set sourceKey (.string text)
      (Fields.set functionKey (.string (functionNamed name))
        (Fields.erase functionKey (Fields.erase sourceKey fields)))) :=
    ((hsorted.erase _).erase _ |>.set _ _).set _ _
  have hunaliased : Fields.Sorted (Json.unaliasedCall fields) := by
    unfold Json.unaliasedCall
    split
    · exact hsorted.set _ _
    · exact hsorted
  rw [toJson, hwritten.ext hunaliased]
  intro key
  have hkeys : functionKey ≠ sourceKey := by decide
  have hget : Fields.get? key (Json.unaliasedCall fields) =
      if functionKey = key then some (.string (functionNamed name))
      else Fields.get? key fields := by
    unfold Json.unaliasedCall functionNamed
    by_cases hlist : name = "list"
    · rw [if_pos hlist, if_pos (by rw [hname, hlist]), Fields.get?_set]
    · rw [if_neg hlist, if_neg (by simp [hname, hlist])]
      split
      · rename_i hkey
        rw [← hkey, hname]
      · rfl
  rw [Fields.get?_set, Fields.get?_set, Fields.get?_erase, Fields.get?_erase, hget]
  by_cases hkey : sourceKey = key
  · subst hkey
    rw [if_pos rfl, if_neg hkeys, htext]
  · rw [if_neg hkey, if_neg hkey]
    split <;> rfl

mutual

/-- A template is written as the value that it is read from, but for the alias. -/
theorem toJson_of_ofConfig {c : Json} {spec : Template} (hvalid : c.Valid)
    (h : ofConfig c = .ok spec) : spec.toJson = c.unaliased := by
  cases c with
  | object fields =>
    rw [Json.unaliased]
    split
    · rename_i hcall
      rcases (ofConfig_callObject_iff (Json.isCallObject_object.mpr hcall)).mp h with
        ⟨text, name, htext, hname, rfl⟩
      exact toJson_call hvalid.1 htext hname
    · rename_i hcall
      rw [ofConfig, if_neg hcall] at h
      rcases exists_of_map_eq_ok h with ⟨templates, hfields, rfl⟩
      rw [toJson, toJsonFields_of_ofConfigFields hvalid.2 hfields]
  | array items =>
    rcases exists_of_map_eq_ok h with ⟨templates, hitems, rfl⟩
    rw [toJson, Json.unaliased, toJsonItems_of_ofConfigItems hvalid hitems]
  | null | bool | number | string =>
    cases h
    rfl

/-- Items are written as they are read from. -/
theorem toJsonItems_of_ofConfigItems {items : List Json} {templates : List Template}
    (hvalid : Json.ValidItems items) (h : ofConfigItems items = .ok templates) :
    toJsonItems templates = Json.unaliasedItems items := by
  cases items with
  | nil =>
    cases h
    rfl
  | cons item items =>
    rw [ofConfigItems] at h
    rcases exists_of_bind_eq_ok h with ⟨template, hitem, h⟩
    rcases exists_of_bind_eq_ok h with ⟨others, hitems, hlist⟩
    cases hlist
    rw [toJsonItems, Json.unaliasedItems, toJson_of_ofConfig hvalid.1 hitem,
      toJsonItems_of_ofConfigItems hvalid.2 hitems]

/-- Fields are written as they are read from. -/
theorem toJsonFields_of_ofConfigFields {fields : List (String × Json)}
    {templates : List (String × Template)} (hvalid : Json.ValidFields fields)
    (h : ofConfigFields fields = .ok templates) :
    toJsonFields templates = Json.unaliasedFields fields := by
  cases fields with
  | nil =>
    cases h
    rfl
  | cons field fields =>
    rcases field with ⟨name, value⟩
    rw [ofConfigFields] at h
    rcases exists_of_bind_eq_ok h with ⟨template, hvalue, h⟩
    rcases exists_of_bind_eq_ok h with ⟨others, hfields, hlist⟩
    cases hlist
    rw [toJsonFields, Json.unaliasedFields, toJson_of_ofConfig hvalid.1 hvalue,
      toJsonFields_of_ofConfigFields hvalid.2 hfields]

end

/-! ## The reading with calls -/

/-- What the reading with calls makes of a value: when it succeeds, and the template, node
by node. -/
structure ConfigReading (c : Json) : Prop where
  /-- The value is read when all its call objects have strings under both marked keys. -/
  readable : (∃ spec, ofConfig c = .ok spec) ↔
    ∀ trail fields, c.Outside trail (.object fields) → (Json.object fields).IsCallObject →
      (∃ text, Fields.get? sourceKey fields = some (.string text)) ∧
      ∃ name, Fields.get? functionKey fields = some (.string name)
  /-- Otherwise it is malformed. -/
  malformed : ∀ error, ofConfig c = .error error → ∃ fault, error = .malformed fault ""
  /-- The nodes of the template are where the value can be followed to outside of call
  objects. -/
  nodes : ∀ spec, ofConfig c = .ok spec → ∀ trail,
    (∃ node, spec.HasNode trail node) ↔ ∃ v, c.Outside trail v
  /-- The calls are those of the call objects. -/
  calls : ∀ spec, ofConfig c = .ok spec → ∀ trail text function parameters,
    spec.HasNode trail (.call text function parameters) ↔
      ∃ fields name, c.Outside trail (.object fields) ∧ (Json.object fields).IsCallObject ∧
        Fields.get? sourceKey fields = some (.string text) ∧
        Fields.get? functionKey fields = some (.string name) ∧
        function = (if name = "list" then "transform" else name) ∧
        parameters = Fields.erase functionKey (Fields.erase sourceKey fields)
  /-- Every other node has the head of the node of the plain reading at its trail. -/
  others : ∀ spec, ofConfig c = .ok spec → ∀ trail node, spec.HasNode trail node →
    (∃ text function parameters, node = .call text function parameters) ∨
      ∃ v, c.Outside trail v ∧ ¬v.IsCallObject ∧ (ofJson c).HasNode trail (ofJson v) ∧
        node.SameHead (ofJson v)
  /-- The template is written as the value, but for the alias. -/
  written : ∀ spec, ofConfig c = .ok spec → spec.toJson = c.unaliased
  /-- Without call objects the template is that of the plain reading. -/
  plain : (∀ trail v, c.Outside trail v → ¬v.IsCallObject) → ofConfig c = .ok (ofJson c)

/-- The reading with calls makes calls of exactly the call objects and loses nothing. -/
theorem ofConfig_exact {c : Json} (hvalid : c.Valid) : ConfigReading c where
  readable := exists_ofConfig_iff
  malformed error h := malformed_of_ofConfig h
  nodes spec h trail := by
    constructor
    · rintro ⟨node, hnode⟩
      rcases exists_outside_of_hasNode hnode h with ⟨v, hv, -⟩
      exact ⟨v, hv⟩
    · rintro ⟨v, hv⟩
      rcases exists_node_of_outside hv h with ⟨node, hnode, -⟩
      exact ⟨node, hnode⟩
  calls spec h trail text function parameters := by
    constructor
    · intro hnode
      rcases exists_outside_of_hasNode hnode h with ⟨v, hv, hread⟩
      have hcall := (isCallObject_iff_of_ofConfig hread).mpr ⟨text, function, parameters, rfl⟩
      cases v with
      | object fields =>
        rcases (ofConfig_callObject_iff hcall).mp hread with ⟨own, name, htext, hname, heq⟩
        cases heq
        exact ⟨fields, name, hv, hcall, htext, hname, rfl, rfl⟩
      | null | bool | number | string | array => cases hcall
    · rintro ⟨fields, name, hv, hcall, htext, hname, rfl, rfl⟩
      rcases exists_node_of_outside hv h with ⟨node, hnode, hread⟩
      rw [(ofConfig_callObject_iff hcall).mpr ⟨text, name, htext, hname, rfl⟩] at hread
      cases hread
      exact hnode
  others spec h trail node hnode := by
    rcases exists_outside_of_hasNode hnode h with ⟨v, hv, hread⟩
    by_cases hcall : v.IsCallObject
    · exact .inl ((isCallObject_iff_of_ofConfig hread).mp hcall)
    · exact .inr ⟨v, hv, hcall, hasNode_ofJson_of_outside hv, sameHead_of_ofConfig hcall hread⟩
  written spec h := toJson_of_ofConfig hvalid h
  plain := ofConfig_eq_ofJson

/-- The fields of a call that has another call in its parameters. -/
def nestedCall : Fields Json :=
  [(sourceKey, .string "rows"), (functionKey, .string "list"),
    ("template", .object [(sourceKey, .string "*"), (functionKey, .string "list")])]

/-- A call among the items of a field, beside an object with only one marked key. -/
def nestedConfig : Json :=
  .object [("a", .array [.string "x", .object nestedCall]),
    ("b", .object [(sourceKey, .null), (functionKey, .string "list")])]

/-- The outer call is read, with the inner one as it is, and written with the other name of
its function. -/
theorem ofConfig_exact_nested :
    ∃ spec, ofConfig nestedConfig = .ok spec ∧
      spec.HasNode [.field "a", .item 1] (.call "rows" "transform" [("template",
        .object [(sourceKey, .string "*"), (functionKey, .string "list")])]) ∧
      spec.toJson = nestedConfig.unaliased := by
  have hreading := ofConfig_exact (c := nestedConfig) (by decide +kernel)
  have hplain : ∀ fields, isCall fields = false → ¬(Json.object fields).IsCallObject := by
    intro fields hfields hcall
    rw [Json.isCallObject_object, hfields] at hcall
    cases hcall
  have hcall : (Json.object nestedCall).IsCallObject :=
    Json.isCallObject_object.mpr (by decide +kernel)
  have houtside : nestedConfig.Outside [.field "a", .item 1] (.object nestedCall) :=
    .part (hplain _ (by decide +kernel)) (.head _) (.part id (.tail _ (.head _)) (.root _))
  have hsome : (ofConfig nestedConfig).toOption.isSome := by decide +kernel
  cases hspec : ofConfig nestedConfig with
  | error error =>
    rw [hspec] at hsome
    cases hsome
  | ok spec =>
    refine ⟨spec, rfl, ?_, hreading.written spec hspec⟩
    exact (hreading.calls spec hspec _ _ _ _).mpr ⟨nestedCall, "list", houtside, hcall,
      by decide +kernel, by decide +kernel, by decide +kernel, by decide +kernel⟩

end Template

end Reshape
