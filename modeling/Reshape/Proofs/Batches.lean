import Reshape.Proofs.ShiftedPlaces

/-!
# Batches of records

There are two ways to transform the records of an array.  In the mode for batches a
transformer applies a template to each record at the root.  The callback for nested records
transforms each record at the place of its index, with a template that it reads again from
the parameter of its call, within the budget that is left for nested calls.

Both come to the same: the results of the records in their order, or the error of the first
record that fails, which the callback places below the index of that record.  Tables stay
loaded from one record to the next, so each record is transformed on the tables that the
records before it leave.

Main results:

- Theorem `transformItems_cases`: records one by one and as items of an array.
- Theorem `Transformer.transform_list`: a call that lists the records of its source.
- Theorem `Transformer.batches_agree`: both ways to transform a batch.
-/

namespace Reshape

/-! ## Records one by one and as items -/

/-- Records that are transformed one by one have all their values, or the first of them
that fails has an error.  As items of an array at a place they have the same values, or the
same error below the place of the item. -/
theorem transformItems_cases {transform : Json → Template → String → Run Json}
    {template : Template} {single : Json → Run Json}
    (hsingle : ∀ record place, transform record template place =
      (single record).mapError (·.under place))
    {records : List Json} (hrecords : ∀ record ∈ records, ∃ fields, record = .object fields)
    (location : String) (index : Nat) (tables : Tables) :
    (∃ values after, Run.Completes single records tables values after ∧
      (records.mapM single).on tables = (.ok values, after) ∧
      (transformItems transform template location index records).on tables =
        (.ok values, after)) ∨
    ∃ front record back values before error after, records = front ++ record :: back ∧
      Run.Completes single front tables values before ∧
      (single record).on before = (.error error, after) ∧
      (records.mapM single).on tables = (.error error, after) ∧
      (transformItems transform template location index records).on tables =
        (.error (error.under (placeIn location (toString (index + front.length)))), after) := by
  induction records generalizing index tables with
  | nil => exact .inl ⟨[], tables, .nil tables, rfl, rfl⟩
  | cons record records ih =>
    rcases List.forall_mem_cons.mp hrecords with ⟨⟨fields, rfl⟩, hrest⟩
    rw [List.mapM_cons, transformItems, transformRecords, hsingle, Run.on_bind, Run.on_bind,
      Run.on_mapError]
    cases hfirst : (single (.object fields)).on tables with
    | mk result tables' =>
      cases result with
      | error error =>
        exact .inr ⟨[], _, records, [], tables, error, tables', rfl, .nil tables, hfirst, rfl, rfl⟩
      | ok value =>
        simp only [Except.mapError]
        rw [Run.on_bind, Run.on_bind]
        rcases ih hrest (index + 1) tables' with ⟨values, after, hvalues, hsingles, hitems⟩ |
          ⟨front, failing, back, values, before, error, after, rfl, hfront, hfailing, hsingles,
            hitems⟩
        · rw [hsingles, hitems]
          exact .inl ⟨value :: values, after, .cons hfirst hvalues, rfl, rfl⟩
        · rw [hsingles, hitems]
          refine .inr ⟨.object fields :: front, failing, back, value :: values, before, error,
            after, rfl, .cons hfirst hfront, hfailing, rfl, ?_⟩
          rw [List.length_cons, Nat.add_right_comm, Nat.add_assoc]

namespace Transformer

/-! ## Calls that list records -/

/-- The call of the callback for nested records on the whole source. -/
def listCall (config : Json) : Template :=
  .call "*" "list" [("template", config)]

/-- A call that lists records transforms them within its budget. -/
theorem transform_list (mode : Mode) {config : Json} {spec : Template}
    (hread : Template.ofConfig config = .ok spec) (records : List Json) :
    transform ⟨.standard, mode⟩ (.array records) (listCall config) "" = (do
      return .array (← transformItems (transformWithin ⟨.standard, mode⟩
        (listCall config).callDepth) spec "" 0 records)) := by
  have hlist : "list" ∈ Registry.recordsNames := by decide
  have hstar : Reshape.evaluate .standard (.array records) "*" "" = pure (.array records) := rfl
  rw [transform_eq_walk, listCall, walk, Registry.callback?_standard_records hlist]
  simp only
  rw [hstar, pure_bind, Run.mapError_eq_self fun error _ => error.located_empty]
  rw [recordsCallback_of_ofConfig rfl hread, transformRecords]
  rfl

/-! ## Agreement -/

/-- Applying a template to a batch and listing the records with it agree: on the values and
the tables that are left, on what the values are, and on the first record that fails. -/
structure BatchesAgree (config : Json) (spec : Template) (records : List Json)
    (tables : Tables) : Prop where
  /-- One way has a value when the other one has it. -/
  values : ∀ value after,
    (apply ⟨.standard, .manyToMany⟩ spec (.array records)).on tables = (.ok value, after) ↔
      (transform ⟨.standard, .manyToMany⟩ (.array records) (listCall config) "").on tables =
        (.ok value, after)
  /-- The value holds one result for each record, in order, each on the tables that the
  records before it leave. -/
  results : ∀ value after,
    (apply ⟨.standard, .manyToMany⟩ spec (.array records)).on tables = (.ok value, after) →
      ∃ values, value = .array values ∧ values.length = records.length ∧
        Run.Completes (fun record => transform ⟨.standard, .manyToMany⟩ record spec "")
          records tables values after
  /-- Otherwise both fail on the first record that fails, with its error, which listing puts
  below the index of the record. -/
  errors : ∀ error after,
    (apply ⟨.standard, .manyToMany⟩ spec (.array records)).on tables = (.error error, after) →
      ∃ front record back values before place, records = front ++ record :: back ∧
        Run.Completes (fun record => transform ⟨.standard, .manyToMany⟩ record spec "")
          front tables values before ∧
        (transform ⟨.standard, .manyToMany⟩ record spec "").on before = (.error error, after) ∧
        (transform ⟨.standard, .manyToMany⟩ (.array records) (listCall config) "").on tables =
          (.error (error.under ("." ++ toString front.length)), after) ∧
        error.templatePlace? = some place ∧
        (error.under ("." ++ toString front.length)).templatePlace? =
          some ("." ++ toString front.length ++ place)

/-- Both ways to transform a batch of records agree, whatever tables are loaded. -/
theorem batches_agree {config : Json} {spec : Template}
    (hread : Template.ofConfig config = .ok spec) {records : List Json}
    (hrecords : ∀ record ∈ records, ∃ fields, record = .object fields) (tables : Tables) :
    BatchesAgree config spec records tables := by
  have hdepth : spec.callDepth < (listCall config).callDepth := by
    have hread_le := Template.callDepth_le_depth hread
    have hget : Fields.get? "template" [("template", config)] = some config := rfl
    have hconfig_le := Json.depth_le_depthFields hget
    rw [listCall, Template.callDepth]
    omega
  have happly : apply ⟨.standard, .manyToMany⟩ spec (.array records) = (do
      return .array (← records.mapM fun record =>
        transform ⟨.standard, .manyToMany⟩ record spec "")) := rfl
  have hlist := transform_list .manyToMany hread records
  have hplace (index : Nat) : placeIn "" (toString index) = "." ++ toString index := by
    simp [placeIn]
  rcases transformItems_cases (fun record place => transformWithin_under .manyToMany hdepth
    record place) hrecords "" 0 tables with ⟨values, after, hvalues, hsingles, hitems⟩ |
    ⟨front, record, back, values, before, error, after, hfront, hcompletes, hrecord, hsingles,
      hitems⟩
  · have happly' : (apply ⟨.standard, .manyToMany⟩ spec (.array records)).on tables =
        (.ok (.array values), after) := by
      rw [happly, Run.on_bind, hsingles]
      rfl
    have hlist' : (transform ⟨.standard, .manyToMany⟩ (.array records) (listCall config) "").on
        tables = (.ok (.array values), after) := by
      rw [hlist, Run.on_bind, hitems]
      rfl
    refine ⟨fun value after' => by rw [happly', hlist'], fun value after' h => ?_, ?_⟩
    · rw [happly'] at h
      cases h
      exact ⟨values, rfl, hvalues.length_eq, hvalues⟩
    · intro error after' h
      rw [happly'] at h
      cases h
  · have happly' : (apply ⟨.standard, .manyToMany⟩ spec (.array records)).on tables =
        (.error error, after) := by
      rw [happly, Run.on_bind, hsingles]
    have hlist' : (transform ⟨.standard, .manyToMany⟩ (.array records) (listCall config) "").on
        tables = (.error (error.under ("." ++ toString front.length)), after) := by
      rw [hlist, Run.on_bind, hitems, Nat.zero_add, hplace]
    refine ⟨fun value after' => ?_, fun value after' h => ?_, fun error' after' h => ?_⟩
    · rw [happly', hlist']
      constructor <;> intro h <;> cases h
    · rw [happly'] at h
      cases h
    · rw [happly'] at h
      cases h
      obtain ⟨trail, hown⟩ := standsBelow_of_transformWithin .manyToMany (Nat.lt_succ_self _)
        ⟨before, congrArg Prod.fst hrecord⟩
      exact ⟨front, record, back, values, before, _, hfront, hcompletes, hrecord, hlist', hown,
        Error.templatePlace?_under _ hown⟩

/-- The identifiers of two records are listed in their order, and an operation that does not
exist is missed at the place of the record. -/
theorem batches_agree_identifiers :
    ((transform ⟨.standard, .manyToMany⟩
      (.array [.object [("id", .ofInt 1)], .object [("id", .ofInt 2)]])
      (listCall (.array [.string "id"])) "").on (.ofFiles .none)).1 =
        .ok (.array [.array [.ofInt 1], .array [.ofInt 2]]) ∧
    ((transform ⟨.standard, .manyToMany⟩ (.array [.object []])
      (listCall (.string "id $ nothing")) "").on (.ofFiles .none)).1 =
        .error (.unknownOperation "nothing" ".0") := by
  constructor
  · have hread : Template.ofConfig (.array [.string "id"]) =
        .ok (.sequence [.expression "id"]) := rfl
    have hrecords : ∀ record ∈ [Json.object [("id", .ofInt 1)], .object [("id", .ofInt 2)]],
        ∃ fields, record = .object fields := by simp
    obtain ⟨after, hrun⟩ : ∃ after, (apply ⟨.standard, .manyToMany⟩ (.sequence [.expression "id"])
        (.array [.object [("id", .ofInt 1)], .object [("id", .ofInt 2)]])).on (.ofFiles .none) =
          (.ok (.array [.array [.ofInt 1], .array [.ofInt 2]]), after) :=
      ⟨_, Prod.ext (by decide +kernel) rfl⟩
    have hagree := batches_agree hread hrecords (.ofFiles .none)
    exact congrArg Prod.fst ((hagree.values _ after).mp hrun)
  · have hread : Template.ofConfig (.string "id $ nothing") = .ok (.expression "id $ nothing") :=
      rfl
    have hrecords : ∀ record ∈ [Json.object []], ∃ fields, record = .object fields := by simp
    obtain ⟨after, hrun⟩ : ∃ after, (apply ⟨.standard, .manyToMany⟩ (.expression "id $ nothing")
        (.array [.object []])).on (.ofFiles .none) =
          (.error (.unknownOperation "nothing" ""), after) :=
      ⟨_, Prod.ext (by decide +kernel) rfl⟩
    have hagree := batches_agree hread hrecords (.ofFiles .none)
    rcases hagree.errors _ after hrun with ⟨front, record, back, -, -, -, hfront, -, -, hlist, -⟩
    obtain rfl : front = [] := by
      cases front with
      | nil => rfl
      | cons => simp at hfront
    exact congrArg Prod.fst hlist

end Transformer

end Reshape
