import Reshape.Proofs.ErrorPlaces

/-!
# Transformations at other places

The place of a transformation counts only in its errors: what is transformed below another
place comes to the same value and leaves the same tables, and an error has that place in
front of its own.  For this it matters that no error is filled in twice.  Errors of
operations have no place at all until the expression fills it in, and errors of nested
records have places that go on from that of their call.

The budget of nested transformations does not count either, as long as it exceeds the depth
of calls.  So a template that a call reads from its parameters is transformed as it would
be on its own.

Main results:

- Definition `Error.under`: an error with a place in front of its own.
- Theorem `evaluate_under`: expressions at other places.
- Theorem `Transformer.walk_under`: templates at other places.
- Theorem `Transformer.transformWithin_under`: transformations at other places and within
  other budgets.
-/

namespace Reshape

/-! ## Errors below a place -/

namespace Error

/-- An error with a place in front of its own.  A fault of a path has no place. -/
def under (outer : String) : Error → Error
  | malformed fault location => malformed fault (outer ++ location)
  | unknownOperation name location => unknownOperation name (outer ++ location)
  | unknownFunction name location => unknownFunction name (outer ++ location)
  | invalidArguments operation location fault =>
    invalidArguments operation (outer ++ location) fault
  | invalidPath fault => invalidPath fault
  | unreadableFile path location => unreadableFile path (outer ++ location)
  | invalidJson location => invalidJson (outer ++ location)
  | nestedTooDeep location => nestedTooDeep (outer ++ location)

/-- The place of an error below a place goes on from that place. -/
theorem templatePlace?_under {error : Error} {location : String} (outer : String)
    (h : error.templatePlace? = some location) :
    (error.under outer).templatePlace? = some (outer ++ location) := by
  cases error with
  | invalidPath | nestedTooDeep => cases h
  | malformed | unknownOperation | unknownFunction | invalidArguments | unreadableFile
      | invalidJson =>
    obtain rfl := Option.some.inj h
    rfl

/-- Filling in nothing leaves an error as it is. -/
theorem located_empty (error : Error) : error.located "" = error := by
  have hfill (known : String) : fillIn known "" = known := by
    unfold fillIn
    split
    · rename_i hempty
      exact (String.isEmpty_iff.mp hempty).symm
    · rfl
  cases error <;> simp [located, hfill]

/-- An open error is filled in below a place as it is elsewhere. -/
theorem IsOpen.raisedBy_under {error : Error} (h : error.IsOpen) (name outer location : String) :
    error.raisedBy name (outer ++ location) = (error.raisedBy name location).under outer := by
  cases h <;> rfl

end Error

/-! ## Expressions -/

section Expressions

variable (source : Json) (outer location : String)

/-- An operation below another place. -/
theorem applyOperation_under (value : Json) (name : String) (arguments : List Json) :
    applyOperation .standard value name arguments (outer ++ location) =
      (applyOperation .standard value name arguments location).mapError (·.under outer) := by
  unfold applyOperation
  split
  · rename_i operation hoperation
    rw [Run.mapError_mapError]
    exact Run.mapError_congr fun error herror =>
      (Registry.isOpen_of_standard hoperation herror).raisedBy_under name outer location
  · split
    · rfl
    · split
      · split <;> rfl
      · rfl

/-- Stages below another place. -/
theorem runStages_under (prior : Segment) (value : Json) (stages : List Segment) :
    runStages .standard source (outer ++ location) prior value stages =
      (runStages .standard source location prior value stages).mapError (·.under outer) := by
  induction stages generalizing prior value with
  | nil => rfl
  | cons stage stages ih =>
    cases stage with
    | nil => rfl
    | cons name arguments =>
      rw [runStages, runStages, Run.mapError_bind, applyOperation_under]
      simp only [ih]

/-- An expression below another place. -/
theorem evaluate_under (text : String) :
    evaluate .standard source text (outer ++ location) =
      (evaluate .standard source text location).mapError (·.under outer) := by
  by_cases hne : text = ""
  · subst hne
    rfl
  · rcases Segment.scan_cases text with ⟨fault, hscan⟩ | ⟨selector, stages, hscan⟩
    · rw [evaluate_of_error _ source _ hscan, evaluate_of_error _ source _ hscan]
      rfl
    · rw [evaluate_of_segments _ source _ hne hscan, evaluate_of_segments _ source _ hne hscan,
        runStages_under]

end Expressions

/-! ## Nested records -/

/-- The place of a part below another place. -/
theorem placeIn_append (outer location part : String) :
    placeIn (outer ++ location) part = outer ++ placeIn location part := by
  simp only [placeIn, String.append_assoc]

section Records

variable {transform transform' : Json → Template → String → Run Json} {template : Template}
  {outer : String}

mutual

/-- The records in a value below another place. -/
theorem transformRecords_under
    (h : ∀ source location, transform source template (outer ++ location) =
      (transform' source template location).mapError (·.under outer))
    (value : Json) (location : String) :
    transformRecords transform template (outer ++ location) value =
      (transformRecords transform' template location value).mapError (·.under outer) := by
  cases value with
  | object fields => exact h _ _
  | array items =>
    rw [transformRecords, transformRecords, Run.mapError_bind, transformItems_under h]
    simp only [Run.mapError_pure]
  | null | bool | number | string => rfl

/-- The records in items below another place. -/
theorem transformItems_under
    (h : ∀ source location, transform source template (outer ++ location) =
      (transform' source template location).mapError (·.under outer))
    (items : List Json) (location : String) (index : Nat) :
    transformItems transform template (outer ++ location) index items =
      (transformItems transform' template location index items).mapError (·.under outer) := by
  cases items with
  | nil => rfl
  | cons item items =>
    rw [transformItems, transformItems, Run.mapError_bind, placeIn_append,
      transformRecords_under h]
    simp only [Run.mapError_bind, Run.mapError_pure, transformItems_under h]

end

end Records

/-! ## Templates -/

namespace Transformer

/-- Of two ways to transform, the first does below a place what the second does elsewhere,
for templates whose calls nest less deep than a bound; and errors of the second stand at
the place that it is given, or below. -/
def ShiftsBelow (outer : String) (bound : Nat)
    (transform transform' : Json → Template → String → Run Json) : Prop :=
  ∀ template : Template, template.callDepth < bound → ∀ source location,
    transform source template (outer ++ location) =
      (transform' source template location).mapError (·.under outer) ∧
    ∀ error, (transform' source template location).CanFail error →
      ∃ rest, error.templatePlace? = some (location ++ rest)

/-- A smaller bound asks for less. -/
theorem ShiftsBelow.mono {outer : String} {bound bound' : Nat}
    {transform transform' : Json → Template → String → Run Json}
    (h : ShiftsBelow outer bound transform transform') (hle : bound' ≤ bound) :
    ShiftsBelow outer bound' transform transform' :=
  fun template hlt => h template (hlt.trans_le hle)

section Callbacks

variable {outer : String} {engine engine' : Engine} {parameters : Fields Json}

/-- Errors that stand at a place or below are located in the same way below another
place. -/
theorem mapError_located_under {run : Run Json} {location : String}
    (h : ∀ error, run.CanFail error → ∃ rest, error.templatePlace? = some (location ++ rest)) :
    (run.mapError (·.under outer)).mapError (·.located (outer ++ location)) =
      (run.mapError (·.located location)).mapError (·.under outer) := by
  rw [Run.mapError_mapError, Run.mapError_mapError]
  apply Run.mapError_congr
  intro error herror
  rcases h error herror with ⟨rest, hrest⟩
  have hunder := Error.templatePlace?_under outer hrest
  rw [← String.append_assoc] at hunder
  rw [Error.located_of_templatePlace? hrest, Error.located_of_templatePlace? hunder]

/-- What a callback throws at its own place, it throws below another one. -/
theorem throw_malformed_under (fault : Malformation) (location : String) :
    (throw (.malformed fault (outer ++ location)) : Run Json).mapError
        (·.located (outer ++ location)) =
      ((throw (.malformed fault location) : Run Json).mapError (·.located location)).mapError
        (·.under outer) := by
  simp only [Run.mapError_throw]
  rw [Error.located_malformed, Error.located_malformed]
  rfl

/-- The callback for nested records below another place. -/
theorem recordsCallback_under
    (h : ShiftsBelow outer (Json.depthFields parameters + 1) engine.transform engine'.transform)
    (value : Json) (location : String) :
    (recordsCallback value ⟨parameters, outer ++ location, engine⟩).mapError
        (·.located (outer ++ location)) =
      ((recordsCallback value ⟨parameters, location, engine'⟩).mapError
        (·.located location)).mapError (·.under outer) := by
  unfold recordsCallback Invocation.eitherParameter? Invocation.parameter?
  cases hconfig : (Fields.get? "template" parameters).or
      (Fields.get? "config_json" parameters) with
  | none => exact throw_malformed_under _ location
  | some config =>
    simp only
    cases hread : Template.ofConfig config with
    | error error =>
      rcases Template.malformed_of_ofConfig hread with ⟨fault, rfl⟩
      rfl
    | ok nested =>
      have hdepth : nested.callDepth < Json.depthFields parameters + 1 := by
        have hread_le := Template.callDepth_le_depth hread
        have hconfig_le := depth_le_of_either hconfig
        omega
      have hnested := h nested hdepth
      simp only [Run.ofExcept, pure_bind]
      rw [transformRecords_under fun source location => (hnested source location).1]
      -- Records fail at places that go on from that of the call, so nothing is filled in.
      apply mapError_located_under
      intro error herror
      rcases exists_record_of_transformRecords herror with ⟨indexes, fields, -, herror⟩
      rcases (hnested _ _).2 error herror with ⟨rest, hrest⟩
      exact ⟨breadcrumb (itemTrail indexes) ++ rest, by rw [hrest, String.append_assoc]⟩

/-- The callback for lookup tables below another place. -/
theorem lookupCallback_under (value : Json) (location : String) :
    (lookupCallback value ⟨parameters, outer ++ location, engine⟩).mapError
        (·.located (outer ++ location)) =
      ((lookupCallback value ⟨parameters, location, engine'⟩).mapError
        (·.located location)).mapError (·.under outer) := by
  unfold lookupCallback Invocation.eitherParameter? Invocation.parameter?
  cases (Fields.get? "table" parameters).or (Fields.get? "enum_dict" parameters) with
  | none => exact throw_malformed_under _ location
  | some table => rfl

end Callbacks

/-- A template below another place, walked with engines that do the same below that place
as elsewhere. -/
theorem walk_under {outer : String} {engine engine' : Engine} {template : Template}
    (h : ShiftsBelow outer template.callDepth engine.transform engine'.transform)
    (source : Json) (location : String) :
    walk .standard engine source (outer ++ location) template =
      (walk .standard engine' source location template).mapError (·.under outer) := by
  induction template using Template.induction generalizing location with
  | step template ih =>
    have hparts : template.parts.mapM (walkPart .standard engine source (outer ++ location)) =
        (template.parts.mapM (walkPart .standard engine' source location)).mapError
          (·.under outer) := by
      rw [Run.mapError_mapM]
      apply Run.mapM_congr
      intro part hpart
      rw [walkPart, walkPart, placeIn_append]
      exact ih part hpart (h.mono (Template.callDepth_le_of_mem_parts hpart)) _
    cases template with
    | mapping fields =>
      rw [walk_mapping, walk_mapping, Run.mapError_bind, hparts]
      simp only [Run.mapError_pure]
    | sequence items =>
      rw [walk_sequence, walk_sequence, Run.mapError_bind, hparts]
      simp only [Run.mapError_pure]
    | expression text =>
      rw [walk, walk, evaluate_under]
    | literal value => rfl
    | call text function parameters =>
      rw [walk, walk]
      cases hcallback : Registry.standard.callback? function with
      | none => rfl
      | some callback =>
        simp only
        rw [Run.mapError_bind, evaluate_under]
        congr 1
        funext value
        rcases Registry.callback?_standard_cases hcallback with ⟨-, rfl⟩ | ⟨-, rfl⟩
        · exact recordsCallback_under h value location
        · exact lookupCallback_under value location

/-- Within budgets that calls do not use up, a transformation below another place does what
it does elsewhere. -/
theorem transformWithin_shiftsBelow (mode : Mode) (outer : String) (budget budget' : Nat) :
    ShiftsBelow outer (min budget budget') (transformWithin ⟨.standard, mode⟩ budget)
      (transformWithin ⟨.standard, mode⟩ budget') := by
  induction budget generalizing budget' with
  | zero =>
    intro template hlt
    omega
  | succ budget ih =>
    cases budget' with
    | zero =>
      intro template hlt
      omega
    | succ budget' =>
      intro template hlt source location
      constructor
      · rw [transformWithin, transformWithin]
        exact walk_under ((ih budget').mono (by omega)) source location
      · intro error herror
        obtain ⟨trail, hplace⟩ :=
          standsBelow_of_transformWithin mode (hlt.trans_le (Nat.min_le_right _ _)) herror
        exact ⟨breadcrumb trail, hplace⟩

/-- A transformation below another place, within any budget that calls do not use up, comes
to what the transformation comes to, with the place in front of that of an error. -/
theorem transformWithin_under (mode : Mode) {budget : Nat} {template : Template}
    (h : template.callDepth < budget) (source : Json) (outer : String) :
    transformWithin ⟨.standard, mode⟩ budget source template outer =
      (transform ⟨.standard, mode⟩ source template "").mapError (·.under outer) := by
  have hshift := (transformWithin_shiftsBelow mode outer budget (template.callDepth + 1)
    template (by omega) source "").1
  rwa [String.append_empty] at hshift

end Transformer

end Reshape
