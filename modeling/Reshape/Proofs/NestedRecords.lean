import Reshape.Proofs.Batches
import Reshape.Proofs.ReachedRecords
import Reshape.Proofs.Termination

/-!
# Calls for nested records

A call for nested records evaluates its expression and transforms the records that are reached in
the value through arrays only, with the template that its parameter is read as.  Each record is
transformed at the place of its indexes.  The results stand in the place of the records, and
nothing else in the value changes.

Records are transformed in their order, on the tables that the records before them leave.  The
first one that fails ends the call with its error: it has a place already, which goes on from that
of the call.  The budget that is left for nested calls is enough for all of them.

Main results:

- Theorem `transformRecords_eq_mapM`: the records in a value are transformed one after the other.
- Theorem `Transformer.transform_records`: a call for nested records.
- Theorem `Transformer.records_keep_shape`: what such a call comes to.
-/

namespace Reshape

/-! ## Records one after the other -/

/-- Transforms a record of a value at a place.  The record has the place of the value with its
indexes added. -/
def transformRecord (transform : Json → Template → String → Run Json) (template : Template)
    (location : String) (record : List Nat × Fields Json) : Run Json :=
  transform (.object record.2) template (location ++ breadcrumb (itemTrail record.1))

section Records

variable {transform : Json → Template → String → Run Json} {template : Template}

/-- A record in an item has its place in the place of the item. -/
theorem transformRecord_cons (location : String) (index : Nat)
    (record : List Nat × Fields Json) :
    transformRecord transform template location (index :: record.1, record.2) =
      transformRecord transform template (placeIn location (toString index)) record := by
  unfold transformRecord
  rw [itemTrail, List.map_cons, ← placeIn_append_breadcrumb]
  rfl

mutual

/-- The records in a value are transformed one after the other, and replaced by the results. -/
theorem transformRecords_eq_mapM (v : Json) (location : String) :
    transformRecords transform template location v = (do
      return v.withRecords (← v.records.mapM (transformRecord transform template location))) := by
  cases v with
  | object fields =>
    have hplace : location ++ breadcrumb (itemTrail []) = location := by
      simp [itemTrail, breadcrumb]
    rw [transformRecords, Json.records, List.mapM_cons, transformRecord, hplace]
    simp [Json.withRecords]
  | array items =>
    rw [transformRecords, transformItems_eq_mapM items location 0]
    simp [Json.records, Json.withRecords]
  | null | bool | number | string => rfl

/-- The records in items are transformed one after the other, and replaced by the results. -/
theorem transformItems_eq_mapM (items : List Json) (location : String) (index : Nat) :
    transformItems transform template location index items = (do
      return Json.withRecordsItems items
        (← (Json.recordsOfItems index items).mapM
          (transformRecord transform template location))) := by
  cases items with
  | nil => rfl
  | cons item items =>
    rw [transformItems, transformRecords_eq_mapM item, transformItems_eq_mapM items,
      Json.recordsOfItems, List.mapM_append, List.mapM_map]
    simp only [Function.comp_def, transformRecord_cons, bind_assoc, pure_bind]
    -- The item takes as many of the results as it has records, which are just its own.
    apply Run.mapM_bind_congr
    intro own hown
    simp only [Json.withRecordsItems, ← hown, List.take_left, List.drop_left]

end

variable {v result : Json} {location : String} {tables after : Tables}

/-- The records in a value have a result when each of them has one.  It is the value with its
records replaced by their results. -/
theorem transformRecords_on_eq_ok_iff :
    (transformRecords transform template location v).on tables = (.ok result, after) ↔
      ∃ results, Run.Completes (transformRecord transform template location) v.records tables
        results after ∧ v.ReplacesRecords results result := by
  rw [transformRecords_eq_mapM, Run.on_bind]
  constructor
  · intro h
    rcases hrun : (v.records.mapM (transformRecord transform template location)).on tables with
      ⟨error | results, after'⟩
    · rw [hrun] at h
      cases h
    · rw [hrun] at h
      cases h
      have hresults := Run.mapM_on_eq_ok_iff.mp hrun
      exact ⟨results, hresults, Json.replacesRecords_withRecords hresults.length_eq⟩
  · rintro ⟨results, hresults, hreplaces⟩
    rw [hresults.mapM_on,
      hreplaces.unique (Json.replacesRecords_withRecords hresults.length_eq)]
    rfl

/-- The records in a value fail with the error of the first one that fails. -/
theorem transformRecords_on_eq_error_iff {error : Error} :
    (transformRecords transform template location v).on tables = (.error error, after) ↔
      ∃ front record back results between, v.records = front ++ record :: back ∧
        Run.Completes (transformRecord transform template location) front tables results between ∧
        (transformRecord transform template location record).on between =
          (.error error, after) := by
  rw [transformRecords_eq_mapM, Run.on_bind, ← Run.mapM_on_eq_error_iff]
  rcases (v.records.mapM (transformRecord transform template location)).on tables with
    ⟨first | results, after'⟩
  · simp
  · simp

end Records

namespace Transformer

/-! ## Calls -/

/-- The errors of nested records have their places. -/
theorem located_of_transformRecords (mode : Mode) {template : Template} {location : String}
    {value : Json} {error : Error}
    (h : (transformRecords (transform ⟨.standard, mode⟩) template location value).CanFail error) :
    error.located location = error := by
  obtain ⟨indexes, fields, -, hrecord⟩ := exists_record_of_transformRecords h
  -- The place goes on from that of the record, and so from that of the call.
  exact (standsBelow_of_transformWithin mode (Nat.lt_succ_self _) hrecord).of_append.located_eq

/-- A call gives what its callback makes of the value of its expression. -/
theorem transform_call (mode : Mode) {function : String} {callback : Callback}
    (h : Registry.standard.callback? function = some callback) (source : Json) (text : String)
    (parameters : Fields Json) (location : String) :
    transform ⟨.standard, mode⟩ source (.call text function parameters) location = (do
      let value ← Reshape.evaluate .standard source text location
      (callback value ⟨parameters, location, engine ⟨.standard, mode⟩
        (transform ⟨.standard, mode⟩)⟩).mapError (·.located location)) := by
  rw [transform_recursion Registry.standard_readsParameters, walk, h]

/-- A call for nested records transforms the records in the value of its expression, with the
template that its parameter is read as. -/
theorem transform_records (mode : Mode) {function : String}
    (hfunction : function ∈ Registry.recordsNames) {parameters : Fields Json} {config : Json}
    {spec : Template}
    (hconfig : (Fields.get? "template" parameters).or
      (Fields.get? "config_json" parameters) = some config)
    (hread : Template.ofConfig config = .ok spec) (source : Json) (text location : String) :
    transform ⟨.standard, mode⟩ source (.call text function parameters) location = (do
      let value ← Reshape.evaluate .standard source text location
      transformRecords (transform ⟨.standard, mode⟩) spec location value) := by
  rw [transform_call mode (Registry.callback?_standard_records hfunction)]
  refine bind_congr fun value => ?_
  rw [recordsCallback_of_ofConfig hconfig hread]
  exact Run.mapError_eq_self fun error => located_of_transformRecords mode

/-- The names of the callback for nested records come to the same. -/
theorem transform_recordsNames (mode : Mode) {function other : String}
    (hfunction : function ∈ Registry.recordsNames) (hother : other ∈ Registry.recordsNames)
    (source : Json) (text : String) (parameters : Fields Json) (location : String) :
    transform ⟨.standard, mode⟩ source (.call text function parameters) location =
      transform ⟨.standard, mode⟩ source (.call text other parameters) location := by
  rw [transform_call mode (Registry.callback?_standard_records hfunction),
    transform_call mode (Registry.callback?_standard_records hother)]

/-- What a call for nested records comes to, given the value of its expression and the tables that
the expression leaves. -/
structure KeepsShape (mode : Mode) (spec : Template) (location : String) (value : Json)
    (before : Tables) (outcome : Except Error Json × Tables) : Prop where
  /-- The records are the objects that are reached through arrays only. -/
  records : ∀ indexes fields, (indexes, fields) ∈ value.records ↔
    value.partAt? (itemTrail indexes) = some (.object fields)
  /-- They are in the order of their indexes. -/
  order : value.records.Pairwise fun record other => List.Lex (· < ·) record.1 other.1
  /-- There is a result when all records have one. -/
  completes : (∃ result after, outcome = (.ok result, after)) ↔
    ∃ results after, Run.Completes (transformRecord (transform ⟨.standard, mode⟩) spec location)
      value.records before results after
  /-- It is the value with its records replaced by their results. -/
  results : ∀ result after, outcome = (.ok result, after) ↔
    ∃ results, Run.Completes (transformRecord (transform ⟨.standard, mode⟩) spec location)
      value.records before results after ∧ value.ReplacesRecords results result
  /-- Otherwise the call fails with the error of the first record that fails. -/
  errors : ∀ error after, outcome = (.error error, after) ↔
    ∃ front record back results between, value.records = front ++ record :: back ∧
      Run.Completes (transformRecord (transform ⟨.standard, mode⟩) spec location)
        front before results between ∧
      (transform ⟨.standard, mode⟩ (.object record.2) spec
        (location ++ breadcrumb (itemTrail record.1))).on between = (.error error, after)

/-- The records in a value are transformed in its shape. -/
theorem keepsShape_transformRecords (mode : Mode) (spec : Template) (location : String)
    (value : Json) (before : Tables) :
    KeepsShape mode spec location value before
      ((transformRecords (transform ⟨.standard, mode⟩) spec location value).on before) where
  records _ _ := Json.mem_records
  order := Json.records_ascending value
  completes := by
    simp only [transformRecords_on_eq_ok_iff]
    constructor
    · rintro ⟨-, after, results, hresults, -⟩
      exact ⟨results, after, hresults⟩
    · rintro ⟨results, after, hresults⟩
      exact ⟨value.withRecords results, after, results, hresults,
        Json.replacesRecords_withRecords hresults.length_eq⟩
  results _ _ := transformRecords_on_eq_ok_iff
  errors _ _ := transformRecords_on_eq_error_iff

/-- A call for nested records keeps the shape of the value of its expression, whose records it
transforms in their order, each at the place of its indexes below that of the call.  It comes to
the same under all names of its callback. -/
theorem records_keep_shape (mode : Mode) :
    (∀ function ∈ Registry.recordsNames, ∀ parameters config spec,
      (Fields.get? "template" parameters).or (Fields.get? "config_json" parameters) =
        some config → Template.ofConfig config = .ok spec →
      ∀ source text location tables value before,
        (Reshape.evaluate .standard source text location).on tables = (.ok value, before) →
        KeepsShape mode spec location value before
          ((transform ⟨.standard, mode⟩ source (.call text function parameters) location).on
            tables)) ∧
    ∀ function ∈ Registry.recordsNames, ∀ other ∈ Registry.recordsNames,
      ∀ source text parameters location,
        transform ⟨.standard, mode⟩ source (.call text function parameters) location =
          transform ⟨.standard, mode⟩ source (.call text other parameters) location := by
  constructor
  · intro function hfunction parameters config spec hconfig hread source text location tables
      value before hvalue
    rw [transform_records mode hfunction hconfig hread, Run.on_bind, hvalue]
    exact keepsShape_transformRecords mode spec location value before
  · intro function hfunction other hother source text parameters location
    exact transform_recordsNames mode hfunction hother source text parameters location

/-- Rows of records are transformed in nested arrays, beside null and a number; and an operation
that does not exist is missed at the place of the first record. -/
theorem records_keep_shape_rows :
    ((transform ⟨.standard, .oneToOne⟩
      (.array [.array [.object [("id", .ofInt 1)], .null], .ofInt 5, .object [("id", .ofInt 2)]])
      (.call "*" "jtl_change" [("config_json", .array [.string "id"])]) ".rows").on
        (.ofFiles .none)).1 =
      .ok (.array [.array [.array [.ofInt 1], .null], .ofInt 5, .array [.ofInt 2]]) ∧
    ((transform ⟨.standard, .oneToOne⟩ (.array [.array [.null, .object []], .object []])
      (.call "*" "list" [("template", .string "id $ nothing")]) ".rows").on (.ofFiles .none)).1 =
      .error (.unknownOperation "nothing" ".rows.0.1") := by
  constructor
  · have hshape := (records_keep_shape .oneToOne).1 "jtl_change" (by decide)
      [("config_json", .array [.string "id"])] _ (.sequence [.expression "id"]) rfl rfl
      (.array [.array [.object [("id", .ofInt 1)], .null], .ofInt 5, .object [("id", .ofInt 2)]])
      "*" ".rows" (.ofFiles .none) _ _ rfl
    have hresults : ∃ after, Run.Completes
        (transformRecord (transform ⟨.standard, .oneToOne⟩) (.sequence [.expression "id"]) ".rows")
        [([0, 0], [("id", .ofInt 1)]), ([2], [("id", .ofInt 2)])] (.ofFiles .none)
        [.array [.ofInt 1], .array [.ofInt 2]] after :=
      ⟨_, .cons (Prod.ext (by decide +kernel) rfl) (.cons (Prod.ext (by decide +kernel) rfl)
        (.nil _))⟩
    obtain ⟨after, hresults⟩ := hresults
    exact congrArg Prod.fst ((hshape.results _ after).mpr
      ⟨_, hresults, Json.replacesRecords_withRecords rfl⟩)
  · have hshape := (records_keep_shape .oneToOne).1 "list" (by decide)
      [("template", .string "id $ nothing")] _ (.expression "id $ nothing") rfl rfl
      (.array [.array [.null, .object []], .object []]) "*" ".rows" (.ofFiles .none) _ _ rfl
    exact congrArg Prod.fst ((hshape.errors _ _).mpr
      ⟨[], ([0, 1], []), [([1], [])], [], _, rfl, .nil _, Prod.ext (by decide +kernel) rfl⟩)

end Transformer

end Reshape
