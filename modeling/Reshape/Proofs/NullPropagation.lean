import Reshape.Proofs.Outcomes
import Reshape.Proofs.PathComposition
import Reshape.Proofs.Progress

/-!
# Null in pipelines

Once the running value of a pipeline is null, it stays null through every stage that hands
null on: an operation with null propagation, an index, and a selector.  An operation with
null propagation also makes the value null when one of its arguments is.  From that point
on nothing is run, so neither the errors of the functions behind it show, nor the numbers
of their arguments, nor what they would do to the tables.

That a function is not run is told by exchanging it: the pipeline comes to the same in
every registry that has other functions with null propagation under the same names.

Main results:

- Definition `Segment.HandsNullOn`: the stages that hand null on.
- Definition `Registry.Rewraps`: registries that differ in functions with null propagation.
- Theorem `runStages_null`: such stages give null for null, and run nothing.
- Theorem `evaluate_null_propagates`: a pipeline that becomes null stays null.
-/

namespace Reshape

/-! ## Operations -/

namespace Operation

variable (operation : Operation) {value : Json} {arguments : List Json}

/-- Null propagation gives null when the running value or an argument is null, and otherwise runs
the operation. -/
theorem maybe_eq_ite (value : Json) (arguments : List Json) :
    operation.maybe value arguments =
      if value = .null ∨ .null ∈ arguments then pure .null else operation value arguments := by
  have hnull (v : Json) : v.isNull = true ↔ v = .null := by cases v <;> simp [Json.isNull]
  simp only [maybe, Bool.or_eq_true, List.any_eq_true, hnull, exists_eq_right]

/-- Null propagation gives null for null, whatever the arguments. -/
@[simp]
theorem maybe_null : operation.maybe .null arguments = pure .null := by
  rw [maybe_eq_ite, if_pos (.inl rfl)]

/-- Null propagation gives null when an argument is null. -/
theorem maybe_of_mem (h : .null ∈ arguments) : operation.maybe value arguments = pure .null := by
  rw [maybe_eq_ite, if_pos (.inr h)]

end Operation

/-! ## Stages -/

/-- A stage that hands null on.  It names an operation with null propagation; or no
operation has its name, and it is an index, or a selector without arguments. -/
inductive Segment.HandsNullOn (r : Registry) : Segment → Prop
  | maybe {name : Token} {arguments : List Token} {operation : Operation}
      (hmaybe : r.operation? name.text = some operation.maybe) :
      HandsNullOn r (name :: arguments)
  | index {name : Token} {arguments : List Token} (hnone : r.operation? name.text = none)
      (hindex : IsIndexName name.text) : HandsNullOn r (name :: arguments)
  | selector {name : Token} {path : String} (hnone : r.operation? name.text = none)
      (hpath : name.text = "." ++ path) : HandsNullOn r [name]

/-- Two registries that differ only in functions with null propagation: under each name
both find the same, or both find an operation with null propagation. -/
def Registry.Rewraps (r r' : Registry) : Prop :=
  ∀ name, r.operation? name = r'.operation? name ∨
    ∃ operation operation', r.operation? name = some (Operation.maybe operation) ∧
      r'.operation? name = some (Operation.maybe operation')

/-- Another function can be registered with null propagation in place of one that is. -/
theorem Registry.rewraps_registerMaybe {r : Registry} {name : String} {operation : Operation}
    (hmaybe : r.operation? name = some operation.maybe) (other : Operation) :
    r.Rewraps (r.registerMaybe name other) := by
  intro found
  rw [registerMaybe, operation?_register]
  by_cases hname : name = found
  · subst hname
    exact .inr ⟨operation, other, hmaybe, if_pos rfl⟩
  · exact .inl (if_neg hname).symm

section Rewraps

variable {r r' : Registry} (h : r.Rewraps r')

include h

/-- Where one registry has an operation with null propagation, so has the other. -/
theorem Registry.Rewraps.exists_maybe {name : String} {operation : Operation}
    (hmaybe : r.operation? name = some operation.maybe) :
    ∃ operation', r'.operation? name = some (Operation.maybe operation') := by
  rcases h name with heq | ⟨-, operation', -, hother⟩
  · exact ⟨operation, heq ▸ hmaybe⟩
  · exact ⟨operation', hother⟩

/-- Where one registry has no operation, neither has the other. -/
theorem Registry.Rewraps.eq_none {name : String} (hnone : r.operation? name = none) :
    r'.operation? name = none := by
  rcases h name with heq | ⟨operation, -, hsome, -⟩
  · exact heq ▸ hnone
  · rw [hnone] at hsome
    contradiction

/-- The same stages hand null on. -/
theorem Segment.HandsNullOn.of_rewraps {stage : Segment} (hstage : stage.HandsNullOn r) :
    stage.HandsNullOn r' := by
  cases hstage with
  | maybe hmaybe =>
    obtain ⟨operation', hother⟩ := h.exists_maybe hmaybe
    exact .maybe hother
  | index hnone hindex => exact .index (h.eq_none hnone) hindex
  | selector hnone hpath => exact .selector (h.eq_none hnone) hpath

end Rewraps

/-! ## Pipelines -/

section Pipelines

variable {r : Registry} {source : Json} {location : String}

/-- An operation with null propagation, by its name. -/
theorem applyOperation_maybe {name : String} {operation : Operation}
    (hmaybe : r.operation? name = some operation.maybe) (value : Json) (arguments : List Json) :
    applyOperation r value name arguments location =
      (operation.maybe value arguments).mapError (·.raisedBy name location) := by
  unfold applyOperation
  rw [hmaybe]

/-- A stage that hands null on gives null for null, and runs nothing. -/
theorem applyOperation_null {name : Token} {arguments : List Token}
    (h : Segment.HandsNullOn r (name :: arguments)) (resolve : Token → Json) :
    applyOperation r .null name.text (arguments.map resolve) location = pure .null := by
  cases h with
  | maybe hmaybe => rw [applyOperation_maybe hmaybe, Operation.maybe_null, Run.mapError_pure]
  | index hnone hindex =>
    obtain ⟨index, hindex⟩ := exists_indexNamed? hindex
    rw [applyOperation_index r location hnone hindex]
    rfl
  | selector hnone hpath =>
    rw [hpath] at hnone ⊢
    rw [List.map_nil, applyOperation_selector hnone, Json.extract_null]

/-- Stages that hand null on give null for null, and run nothing. -/
theorem runStages_null {stages : List Segment} (h : ∀ stage ∈ stages, stage.HandsNullOn r)
    (prior : Segment) : runStages r source location prior .null stages = pure .null := by
  induction stages generalizing prior with
  | nil => rfl
  | cons stage stages ih =>
    obtain ⟨hstage, hrest⟩ := List.forall_mem_cons.mp h
    cases stage with
    | nil => cases hstage
    | cons name arguments =>
      rw [runStages, applyOperation_null hstage, pure_bind]
      exact ih hrest (name :: arguments)

end Pipelines

/-! ## The point of null -/

/-- What is left of a pipeline becomes null at once: its running value is null, or its next
stage is an operation with null propagation and has an argument that resolves to null. -/
inductive BecomesNull (r : Registry) (source : Json) : Json → List Segment → Prop
  | value (stages : List Segment) : BecomesNull r source .null stages
  | argument {value : Json} {name token : Token} {arguments : List Token}
      {stages : List Segment} {operation : Operation}
      (hmaybe : r.operation? name.text = some operation.maybe) (htoken : token ∈ arguments)
      (hnull : resolveArgument token.text source = .null) :
      BecomesNull r source value ((name :: arguments) :: stages)

section Point

variable {r r' : Registry} {source value : Json} {stages : List Segment}

/-- What becomes null at once does so whatever functions are run with null propagation. -/
theorem BecomesNull.of_rewraps (hrewraps : r.Rewraps r') (h : BecomesNull r source value stages) :
    BecomesNull r' source value stages := by
  cases h with
  | value => exact .value stages
  | argument hmaybe htoken hnull =>
    obtain ⟨operation', hother⟩ := hrewraps.exists_maybe hmaybe
    exact .argument hother htoken hnull

/-- What becomes null at once is null, and nothing is run, if its stages hand null on. -/
theorem runStages_of_becomesNull (h : BecomesNull r source value stages)
    (hstages : ∀ stage ∈ stages, stage.HandsNullOn r) (location : String) (prior : Segment) :
    runStages r source location prior value stages = pure .null := by
  cases h with
  | value => exact runStages_null hstages prior
  | @argument _ name token arguments rest operation hmaybe htoken hnull =>
    have hmem : .null ∈ arguments.map fun token => resolveArgument token.text source :=
      List.mem_map.mpr ⟨token, htoken, hnull⟩
    have hrest : ∀ stage ∈ rest, stage.HandsNullOn r :=
      fun stage hstage => hstages stage (List.mem_cons_of_mem _ hstage)
    rw [runStages, applyOperation_maybe hmaybe, operation.maybe_of_mem hmem, Run.mapError_pure,
      pure_bind]
    exact runStages_null hrest (name :: arguments)

end Point

/-! ## Expressions -/

/-- An expression whose stages are cut in two, the first ones being run on tables.  When
they fail, the expression fails as they do.  When what is left becomes null at once, and
hands null on, then the expression is null and leaves the tables as the first stages do;
and this is so whatever functions are run with null propagation from there on. -/
theorem evaluate_null_propagates {r : Registry} {source : Json} {location expression : String}
    {selector : Segment} {front back : List Segment} (hne : expression ≠ "")
    (hscan : Segment.scan expression = .ok (selector :: (front ++ back)))
    (hstages : ∀ stage ∈ back, stage.HandsNullOn r) {tables tables' : Tables}
    {result : Except Error Json}
    (hfront : (runStages r source location selector (startValue source selector) front).on tables =
      (result, tables')) :
    (∀ error, result = .error error →
      (evaluate r source expression location).on tables = (.error error, tables')) ∧
    ∀ value, result = .ok value → BecomesNull r source value back →
      (evaluate r source expression location).on tables = (.ok .null, tables') ∧
      ∀ r', r.Rewraps r' → ∀ prior,
        runStages r' source location prior value back = pure .null := by
  have hrun : (evaluate r source expression location).on tables =
      ((runStages r source location selector (startValue source selector) front >>= fun value =>
        runStages r source location (front.getLastD selector) value back).on tables) := by
    rw [evaluate_of_segments r source location hne hscan, runStages_append]
  rw [Run.on_bind, hfront] at hrun
  constructor
  · intro error herror
    rw [hrun, herror]
  · intro value hvalue hnull
    constructor
    · rw [hrun, hvalue]
      simp only [runStages_of_becomesNull hnull hstages, Run.on_pure]
    · intro r' hrewraps prior
      have hstages' : ∀ stage ∈ back, stage.HandsNullOn r' :=
        fun stage hstage => (hstages stage hstage).of_rewraps hrewraps
      exact runStages_of_becomesNull (hnull.of_rewraps hrewraps) hstages' location prior

/-- A source with one row. -/
def oneRow : Json :=
  .object [("rows", .array [.ofInt 7])]

/-- The stages of an addition whose first argument leads nowhere, which is given one
argument too many, and of an index and a selector behind it. -/
def sumStages : List Segment :=
  [[.word "+".toList, .word "missing".toList, .word "1".toList], [.word "0".toList],
    [.word ".x".toList]]

/-- The addition is not run, and might as well be an operation that fails. -/
theorem evaluate_null_propagates_sum :
    "rows $ -1 $ + missing 1 $ 0 $ .x" ≠ "" ∧
    Segment.scan "rows $ -1 $ + missing 1 $ 0 $ .x" =
      .ok ([.word "rows".toList] :: ([[.word "-1".toList]] ++ sumStages)) ∧
    (∀ stage ∈ sumStages, stage.HandsNullOn .standard) ∧
    (runStages .standard oneRow ".out" [.word "rows".toList]
      (startValue oneRow [.word "rows".toList]) [[.word "-1".toList]]).on (.ofFiles .none) =
        (.ok (.ofInt 7), .ofFiles .none) ∧
    BecomesNull .standard oneRow (.ofInt 7) sumStages ∧
    (evaluate .standard oneRow "rows $ -1 $ + missing 1 $ 0 $ .x" ".out").on (.ofFiles .none) =
      (.ok .null, .ofFiles .none) ∧
    runStages (Registry.standard.registerMaybe "+" fun _ _ => throw (.invalidJson "")) oneRow
      ".out" [.word "-1".toList] (.ofInt 7) sumStages = pure .null := by
  obtain ⟨sum, hmem, hname, hnull⟩ :
      ∃ entry ∈ Catalog.entries, entry.name = "+" ∧ entry.propagatesNull := by decide +kernel
  have hsum : Registry.standard.operation? "+" = some sum.operation.maybe := by
    rw [← hname, Registry.operation?_standard_of_mem hmem, Catalog.Entry.registered, if_pos hnull]
  have hplus : Registry.standard.operation? (Token.word "+".toList).text =
      some sum.operation.maybe := by
    rw [Token.text_word, hsum]
  have hnone : ∀ name ∈ ["0", "-1", ".x"], Registry.standard.operation? name = none := by
    have hnames : ∀ name ∈ ["0", "-1", ".x"], name ∉ Catalog.entries.map Catalog.Entry.name := by
      decide +kernel
    have hfile : ∀ name ∈ ["0", "-1", ".x"], name ≠ "enumFileChange" := by decide
    exact fun name hname => Registry.operation?_standard_eq_none (hnames name hname)
      (hfile name hname)
  simp only [List.forall_mem_cons, List.not_mem_nil, false_imp_iff, implies_true,
    and_true] at hnone
  obtain ⟨hindex, hlast, hpath⟩ := hnone
  have hzero : IsIndexName "0" :=
    ⟨['0'], by decide, List.forall_mem_singleton.mpr (by decide), .inl ⟨by decide, by decide⟩⟩
  have hscan : Segment.scan "rows $ -1 $ + missing 1 $ 0 $ .x" =
      .ok ([.word "rows".toList] :: ([[.word "-1".toList]] ++ sumStages)) := by decide +kernel
  have hselector : (Token.word ".x".toList).text = "." ++ "x" := by
    rw [Token.text_word]
    decide
  have hstages : ∀ stage ∈ sumStages, stage.HandsNullOn .standard := by
    simp only [sumStages, List.forall_mem_cons, List.not_mem_nil, false_imp_iff, implies_true,
      and_true]
    refine ⟨.maybe hplus, .index ?_ ?_, .selector ?_ hselector⟩
    · rw [Token.text_word, hindex]
    · rw [Token.text_word]
      exact hzero
    · rw [Token.text_word, hpath]
  have hfront : (runStages .standard oneRow ".out" [.word "rows".toList]
      (startValue oneRow [.word "rows".toList]) [[.word "-1".toList]]).on (.ofFiles .none) =
        (.ok (.ofInt 7), .ofFiles .none) := by
    have hstart : startValue oneRow [.word "rows".toList] = .array [.ofInt 7] := by
      decide +kernel
    have hminus : indexNamed? "-1" = some (-1) := by decide
    have helement : (Json.array [.ofInt 7]).elementAt (-1) = .ofInt 7 := by decide +kernel
    rw [hstart, runStages, Token.text_word, applyOperation_index _ _ hlast hminus, helement]
    rfl
  have hpoint : BecomesNull .standard oneRow (.ofInt 7) sumStages := by
    have hmissing : resolveArgument (Token.word "missing".toList).text oneRow = .null := by
      decide +kernel
    exact .argument hplus (by simp) hmissing
  obtain ⟨-, hrun⟩ := evaluate_null_propagates (by decide) hscan hstages hfront
  obtain ⟨hvalue, hother⟩ := hrun _ rfl hpoint
  exact ⟨by decide, hscan, hstages, hfront, hpoint, hvalue,
    hother _ (Registry.rewraps_registerMaybe hsum _) _⟩

end Reshape
