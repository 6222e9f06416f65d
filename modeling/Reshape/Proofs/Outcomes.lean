import Mathlib.Data.List.Forall2
import Reshape.Proofs.Computations

/-!
# Outcomes of runs

On each state of the tables a run comes to a value or an error and leaves tables behind.
Often less is enough.  A run is pure when it neither reads nor changes the tables, so that
it is one value or one error; of any run one can say which values and errors it can come
to.

A run over a list goes through its elements in order and stops at the first that fails.

Main results:

- Definitions `Run.CanYield`, `Run.CanFail`: the values and errors a run can come to.
- Theorem `Run.CanFail.of_bind`: an error of two runs is one of either.
- Theorem `Run.mapError_congr`: a change of errors counts only on those that can arise.
- Definition `Run.Completes`: the values of a run over a list, one after the other.
- Theorem `Run.mapM_cases_on`: a run over a list on given tables.
- Definition `Run.IsPure`: runs that do not depend on the tables.
- Theorem `Run.mapM_cases`: a pure run over a list gives all values, or the error of the
  first element that fails.
-/

namespace Reshape

namespace Run

variable {α β : Type}

/-! ## Outcomes -/

/-- What a run comes to on tables, and the tables that it leaves. -/
def on (run : Run α) (tables : Tables) : Except Error α × Tables :=
  StateT.run (ExceptT.run run) tables

/-- A value leaves the tables alone. -/
@[simp]
theorem on_pure (value : α) (tables : Tables) :
    (pure value : Run α).on tables = (.ok value, tables) :=
  rfl

/-- An error leaves the tables alone. -/
@[simp]
theorem on_throw (error : Error) (tables : Tables) :
    (throw error : Run α).on tables = (.error error, tables) :=
  rfl

/-- A computation leaves the tables alone. -/
theorem on_ofExcept (result : Except Error α) (tables : Tables) :
    (ofExcept result).on tables = (result, tables) := by
  cases result <;> rfl

/-- The second of two runs goes on with the value and the tables of the first, unless the
first one fails. -/
theorem on_bind (run : Run α) (next : α → Run β) (tables : Tables) :
    (run >>= next).on tables =
      match run.on tables with
      | (.ok value, tables') => (next value).on tables'
      | (.error error, tables') => (.error error, tables') := by
  simp only [on, ExceptT.run, StateT.run, bind, ExceptT.bind, ExceptT.mk, StateT.bind]
  cases run tables with
  | mk result tables' => cases result <;> rfl

/-- A change of errors leaves the tables alone. -/
theorem on_mapError (f : Error → Error) (run : Run α) (tables : Tables) :
    (run.mapError f).on tables = ((run.on tables).1.mapError f, (run.on tables).2) :=
  rfl

/-- A value that a run can come to. -/
def CanYield (run : Run α) (value : α) : Prop :=
  ∃ tables, (run.on tables).1 = .ok value

/-- An error that a run can come to. -/
def CanFail (run : Run α) (error : Error) : Prop :=
  ∃ tables, (run.on tables).1 = .error error

/-- A value is no error. -/
theorem not_canFail_pure (value : α) (error : Error) : ¬(pure value : Run α).CanFail error := by
  rintro ⟨tables, h⟩
  rw [on_pure] at h
  cases h

/-- An error is the only one that it can come to. -/
theorem canFail_throw_iff (error error' : Error) :
    (throw error : Run α).CanFail error' ↔ error = error' := by
  constructor
  · rintro ⟨tables, h⟩
    rw [on_throw] at h
    exact Except.error.inj h
  · rintro rfl
    exact ⟨.ofFiles .none, rfl⟩

/-- A value of a computation is the one that it can come to. -/
theorem canYield_ofExcept_iff (result : Except Error α) (value : α) :
    (ofExcept result).CanYield value ↔ result = .ok value := by
  constructor
  · rintro ⟨tables, h⟩
    rwa [on_ofExcept] at h
  · intro h
    exact ⟨.ofFiles .none, by rwa [on_ofExcept]⟩

/-- An error of a computation is the one that it can come to. -/
theorem canFail_ofExcept_iff (result : Except Error α) (error : Error) :
    (ofExcept result).CanFail error ↔ result = .error error := by
  constructor
  · rintro ⟨tables, h⟩
    rwa [on_ofExcept] at h
  · intro h
    exact ⟨.ofFiles .none, by rwa [on_ofExcept]⟩

/-- Two runs fail when the first one fails, or the second one does on the value and the
tables of the first. -/
theorem on_bind_eq_error_iff {run : Run α} {next : α → Run β} {tables after : Tables}
    {error : Error} :
    (run >>= next).on tables = (.error error, after) ↔
      run.on tables = (.error error, after) ∨
        ∃ value between, run.on tables = (.ok value, between) ∧
          (next value).on between = (.error error, after) := by
  rw [on_bind]
  rcases run.on tables with ⟨first | value, between⟩
  · simp
  · simp

/-- An error of two runs is one of the first, or one of the second on a value of the
first. -/
theorem CanFail.of_bind {run : Run α} {next : α → Run β} {error : Error}
    (h : (run >>= next).CanFail error) :
    run.CanFail error ∨ ∃ value, run.CanYield value ∧ (next value).CanFail error := by
  rcases h with ⟨tables, h⟩
  rcases on_bind_eq_error_iff.mp (Prod.ext h rfl) with h | ⟨value, tables', hrun, h⟩
  · exact .inl ⟨tables, congrArg Prod.fst h⟩
  · exact .inr ⟨value, ⟨tables, congrArg Prod.fst hrun⟩, ⟨tables', congrArg Prod.fst h⟩⟩

/-- An error of a run whose errors are changed is a changed one. -/
theorem CanFail.of_mapError {f : Error → Error} {run : Run α} {error : Error}
    (h : (run.mapError f).CanFail error) : ∃ inner, run.CanFail inner ∧ f inner = error := by
  rcases h with ⟨tables, h⟩
  rw [on_mapError] at h
  rcases hrun : run.on tables with ⟨result, tables'⟩
  rw [hrun] at h
  cases result with
  | ok value => cases h
  | error inner => exact ⟨inner, ⟨tables, congrArg Prod.fst hrun⟩, Except.error.inj h⟩

/-- An error of a run over a list is one of an element. -/
theorem CanFail.of_mapM {f : α → Run β} {xs : List α} {error : Error}
    (h : (xs.mapM f).CanFail error) : ∃ x ∈ xs, (f x).CanFail error := by
  induction xs with
  | nil => exact (not_canFail_pure _ _ h).elim
  | cons x xs ih =>
    rw [List.mapM_cons] at h
    rcases h.of_bind with h | ⟨value, -, h⟩
    · exact ⟨x, List.mem_cons_self, h⟩
    · rcases h.of_bind with h | ⟨values, -, h⟩
      · rcases ih h with ⟨y, hy, h⟩
        exact ⟨y, List.mem_cons_of_mem x hy, h⟩
      · exact (not_canFail_pure _ _ h).elim

/-- Runs over a list are the same when they are the same on its elements. -/
theorem mapM_congr {f g : α → Run β} {xs : List α} (h : ∀ x ∈ xs, f x = g x) :
    xs.mapM f = xs.mapM g := by
  induction xs with
  | nil => rfl
  | cons x xs ih =>
    rcases List.forall_mem_cons.mp h with ⟨hx, hxs⟩
    rw [List.mapM_cons, List.mapM_cons, hx, ih hxs]

/-! ## Changed errors -/

/-- Runs are the same when they come to the same on all tables. -/
theorem eq_of_on {run run' : Run α} (h : ∀ tables, run.on tables = run'.on tables) :
    run = run' :=
  funext h

/-- Changes that agree on the errors of a run change it in the same way. -/
theorem mapError_congr {f g : Error → Error} {run : Run α}
    (h : ∀ error, run.CanFail error → f error = g error) : run.mapError f = run.mapError g := by
  apply eq_of_on
  intro tables
  rw [on_mapError, on_mapError]
  cases hrun : (run.on tables).1 with
  | ok value => rfl
  | error error => exact congrArg (fun e => (Except.error e, _)) (h error ⟨tables, hrun⟩)

/-- A run stays the same when all its errors do. -/
theorem mapError_eq_self {f : Error → Error} {run : Run α}
    (h : ∀ error, run.CanFail error → f error = error) : run.mapError f = run := by
  apply eq_of_on
  intro tables
  rw [on_mapError]
  cases hrun : run.on tables with
  | mk result tables' =>
    cases result with
    | ok value => rfl
    | error error =>
      have hfail : run.CanFail error := ⟨tables, congrArg Prod.fst hrun⟩
      exact congrArg (fun e => (Except.error e, tables')) (h error hfail)

/-- Two changes of errors are one. -/
theorem mapError_mapError (f g : Error → Error) (run : Run α) :
    (run.mapError f).mapError g = run.mapError fun error => g (f error) := by
  apply eq_of_on
  intro tables
  rw [on_mapError, on_mapError, on_mapError]
  cases (run.on tables).1 <;> rfl

/-- The errors of two runs are changed in each of them. -/
theorem mapError_bind (f : Error → Error) (run : Run α) (next : α → Run β) :
    (run >>= next).mapError f = run.mapError f >>= fun value => (next value).mapError f := by
  apply eq_of_on
  intro tables
  rw [on_mapError, on_bind, on_bind, on_mapError]
  cases run.on tables with
  | mk result tables' => cases result <;> rfl

/-- The errors of a run over a list are changed in each element. -/
theorem mapError_mapM (f : Error → Error) (run : α → Run β) (xs : List α) :
    (xs.mapM run).mapError f = xs.mapM fun x => (run x).mapError f := by
  induction xs with
  | nil => rfl
  | cons x xs ih =>
    rw [List.mapM_cons, List.mapM_cons, mapError_bind]
    simp only [mapError_bind, ih, mapError_pure]

/-! ## Runs over lists -/

/-- All elements of a list have a value, each on the tables that the elements before it
leave. -/
inductive Completes (f : α → Run β) : List α → Tables → List β → Tables → Prop
  | nil (tables : Tables) : Completes f [] tables [] tables
  | cons {x : α} {xs : List α} {y : β} {ys : List β} {tables tables' after : Tables}
      (hx : (f x).on tables = (.ok y, tables')) (hxs : Completes f xs tables' ys after) :
      Completes f (x :: xs) tables (y :: ys) after

section Lists

variable {γ : Type} {f : α → Run β} {xs : List α} {tables : Tables}

/-- There is one value for each element. -/
theorem Completes.length_eq {ys : List β} {after : Tables}
    (h : Completes f xs tables ys after) : ys.length = xs.length := by
  induction h with
  | nil => rfl
  | cons _ _ ih => rw [List.length_cons, List.length_cons, ih]

/-- A run over a list has all values, one after the other, or ends with the first element that
fails. -/
theorem mapM_cases_on (f : α → Run β) (xs : List α) (tables : Tables) :
    (∃ ys after, Completes f xs tables ys after ∧ (xs.mapM f).on tables = (.ok ys, after)) ∨
    ∃ front x back ys before error after, xs = front ++ x :: back ∧
      Completes f front tables ys before ∧ (f x).on before = (.error error, after) ∧
      (xs.mapM f).on tables = (.error error, after) := by
  induction xs generalizing tables with
  | nil => exact .inl ⟨[], tables, .nil tables, rfl⟩
  | cons x xs ih =>
    rw [List.mapM_cons, on_bind]
    rcases hx : (f x).on tables with ⟨error | y, tables'⟩
    · exact .inr ⟨[], x, xs, [], tables, error, tables', rfl, .nil tables, hx, rfl⟩
    · simp only [on_bind]
      rcases ih tables' with ⟨ys, after, hys, hrun⟩ |
        ⟨front, failing, back, ys, before, error, after, rfl, hfront, hfailing, hrun⟩
      · rw [hrun]
        exact .inl ⟨y :: ys, after, .cons hx hys, rfl⟩
      · rw [hrun]
        exact .inr ⟨x :: front, failing, back, y :: ys, before, error, after, rfl,
          .cons hx hfront, hfailing, rfl⟩

/-- All values are those of the run over the list. -/
theorem Completes.mapM_on {ys : List β} {after : Tables} (h : Completes f xs tables ys after) :
    (xs.mapM f).on tables = (.ok ys, after) := by
  induction h with
  | nil => rfl
  | cons hx _ ih =>
    rw [List.mapM_cons, on_bind, hx]
    simp only [on_bind, ih, on_pure]

/-- The values of a run over a list are those of its elements. -/
theorem mapM_on_eq_ok_iff {ys : List β} {after : Tables} :
    (xs.mapM f).on tables = (.ok ys, after) ↔ Completes f xs tables ys after := by
  constructor
  · intro h
    rcases mapM_cases_on f xs tables with ⟨ys', after', hys, hrun⟩ |
      ⟨-, -, -, -, -, error, after', -, -, -, hrun⟩
    · rw [hrun] at h
      cases h
      exact hys
    · rw [hrun] at h
      cases h
  · exact Completes.mapM_on

/-- The error of a run over a list is that of the first element that fails. -/
theorem mapM_on_eq_error_iff {error : Error} {after : Tables} :
    (xs.mapM f).on tables = (.error error, after) ↔
      ∃ front x back ys before, xs = front ++ x :: back ∧ Completes f front tables ys before ∧
        (f x).on before = (.error error, after) := by
  constructor
  · intro h
    rcases mapM_cases_on f xs tables with ⟨ys, after', -, hrun⟩ |
      ⟨front, x, back, ys, before, error', after', hxs, hfront, hx, hrun⟩
    · rw [hrun] at h
      cases h
    · rw [hrun] at h
      cases h
      exact ⟨front, x, back, ys, before, hxs, hfront, hx⟩
  · rintro ⟨front, x, back, ys, before, rfl, hfront, hx⟩
    rw [List.mapM_append, List.mapM_cons, on_bind, hfront.mapM_on]
    simp only [on_bind, hx]

/-- What follows a run over a list is given one value for each element. -/
theorem mapM_bind_congr {next next' : List β → Run γ}
    (h : ∀ ys : List β, ys.length = xs.length → next ys = next' ys) :
    xs.mapM f >>= next = xs.mapM f >>= next' := by
  apply eq_of_on
  intro tables
  rw [on_bind, on_bind]
  rcases hrun : (xs.mapM f).on tables with ⟨error | ys, after⟩
  · rfl
  · simp only [h ys (mapM_on_eq_ok_iff.mp hrun).length_eq]

end Lists

/-! ## Pure runs -/

/-- A run that neither reads nor changes the tables. -/
def IsPure (run : Run α) : Prop :=
  ∃ result, run = ofExcept result

/-- A pure run is a value or an error. -/
theorem isPure_iff {run : Run α} :
    run.IsPure ↔ (∃ value, run = pure value) ∨ ∃ error, run = throw error := by
  constructor
  · rintro ⟨result, rfl⟩
    cases result with
    | ok value => exact .inl ⟨value, rfl⟩
    | error error => exact .inr ⟨error, rfl⟩
  · rintro (⟨value, rfl⟩ | ⟨error, rfl⟩)
    · exact ⟨.ok value, rfl⟩
    · exact ⟨.error error, rfl⟩

/-- A value is a pure run. -/
theorem isPure_pure (value : α) : (pure value : Run α).IsPure :=
  ⟨.ok value, rfl⟩

/-- An error is a pure run. -/
theorem isPure_throw (error : Error) : (throw error : Run α).IsPure :=
  ⟨.error error, rfl⟩

/-- Pure runs one after the other are pure. -/
theorem IsPure.bind {run : Run α} {next : α → Run β} (h : run.IsPure)
    (hnext : ∀ value, (next value).IsPure) : (run >>= next).IsPure := by
  rcases isPure_iff.mp h with ⟨value, rfl⟩ | ⟨error, rfl⟩
  · rw [pure_bind]
    exact hnext value
  · rw [throw_bind]
    exact isPure_throw error

/-- A value of two runs, of which the first is pure, is one of the second on the value of
the first. -/
theorem IsPure.exists_of_bind_eq_pure {run : Run α} {next : α → Run β} {value : β}
    (hpure : run.IsPure) (h : run >>= next = pure value) :
    ∃ first, run = pure first ∧ next first = pure value := by
  rcases isPure_iff.mp hpure with ⟨first, rfl⟩ | ⟨error, rfl⟩
  · rw [pure_bind] at h
    exact ⟨first, rfl, h⟩
  · rw [throw_bind] at h
    exact (throw_ne_pure error value h).elim

/-- An error behind a pure run whose value is only put together is that of the run. -/
theorem IsPure.eq_throw_of_bind {run : Run α} {f : α → β} {error : Error} (hpure : run.IsPure)
    (h : (run >>= fun value => pure (f value)) = throw error) : run = throw error := by
  rcases isPure_iff.mp hpure with ⟨value, rfl⟩ | ⟨first, rfl⟩
  · rw [pure_bind] at h
    exact (throw_ne_pure error (f value) h.symm).elim
  · rw [throw_bind] at h
    rw [throw_inj h]

/-- A pure run stays pure when its errors are changed. -/
theorem IsPure.mapError {run : Run α} (h : run.IsPure) (f : Error → Error) :
    (run.mapError f).IsPure := by
  rcases isPure_iff.mp h with ⟨value, rfl⟩ | ⟨error, rfl⟩
  · exact isPure_pure value
  · exact isPure_throw (f error)

/-- A pure run over a list gives the values of all elements, or the error of the first one
that fails. -/
theorem mapM_cases {f : α → Run β} {xs : List α} (h : ∀ x ∈ xs, (f x).IsPure) :
    (∃ ys, xs.mapM f = pure ys ∧ List.Forall₂ (fun x y => f x = pure y) xs ys) ∨
    ∃ front x back error, xs = front ++ x :: back ∧ (∀ y ∈ front, ∃ value, f y = pure value) ∧
      f x = throw error ∧ xs.mapM f = throw error := by
  induction xs with
  | nil => exact .inl ⟨[], rfl, .nil⟩
  | cons x xs ih =>
    rcases List.forall_mem_cons.mp h with ⟨hx, hxs⟩
    rw [List.mapM_cons]
    rcases isPure_iff.mp hx with ⟨value, hx⟩ | ⟨error, hx⟩
    · rcases ih hxs with ⟨ys, hys, hforall⟩ | ⟨front, y, back, error, rfl, hfront, hy, hys⟩
      · exact .inl ⟨value :: ys, by simp [hx, hys], .cons hx hforall⟩
      · refine .inr ⟨x :: front, y, back, error, rfl, ?_, hy, by simp [hx, hys]⟩
        exact List.forall_mem_cons.mpr ⟨⟨value, hx⟩, hfront⟩
    · exact .inr ⟨[], x, xs, error, rfl, by simp, hx, by simp [hx]⟩

/-- Pure runs over a list are pure. -/
theorem IsPure.mapM {f : α → Run β} {xs : List α} (h : ∀ x ∈ xs, (f x).IsPure) :
    (xs.mapM f).IsPure := by
  rcases mapM_cases h with ⟨ys, hys, -⟩ | ⟨-, -, -, error, -, -, -, hxs⟩
  · exact isPure_iff.mpr (.inl ⟨ys, hys⟩)
  · exact isPure_iff.mpr (.inr ⟨error, hxs⟩)

/-- The values of a pure run over a list are those of its elements. -/
theorem forall₂_of_mapM_eq_pure {f : α → Run β} {xs : List α} {ys : List β}
    (hpure : ∀ x ∈ xs, (f x).IsPure) (h : xs.mapM f = pure ys) :
    List.Forall₂ (fun x y => f x = pure y) xs ys := by
  rcases mapM_cases hpure with ⟨values, hvalues, hforall⟩ | ⟨-, -, -, error, -, -, -, hxs⟩
  · rwa [pure_inj (h.symm.trans hvalues)]
  · exact (throw_ne_pure error ys (hxs.symm.trans h)).elim

end Run

end Reshape
