import Mathlib.Data.List.Forall2
import Reshape.Files.Tables

/-!
# Results of computations

What a result says about the parts of the computation that it comes from.  A run that
gives a value without touching the tables is settled; most of what runs is either settled
or stops.

Main results:

- Theorem `exists_of_bind_eq_ok`: the parts of a computation that succeeds.
- Theorem `eq_error_of_bind`: the part behind an error.
- Theorem `mapM_eq_ok_iff`: what a computation over a list gives.
- Definition `Run.Settled`: runs that give a value.
-/

namespace Reshape

/-! ## Results -/

section Results

variable {ε α β : Type}

/-- A result that is mapped is that of a computation that succeeds. -/
theorem exists_of_map_eq_ok {f : α → β} {x : Except ε α} {b : β} (h : x.map f = .ok b) :
    ∃ a, x = .ok a ∧ f a = b := by
  cases x with
  | error => cases h
  | ok a => exact ⟨a, rfl, Except.ok.inj h⟩

/-- A result of two computations is one of the second on a result of the first. -/
theorem exists_of_bind_eq_ok {x : Except ε α} {f : α → Except ε β} {b : β}
    (h : x >>= f = .ok b) : ∃ a, x = .ok a ∧ f a = .ok b := by
  cases x with
  | error => cases h
  | ok a => exact ⟨a, rfl, h⟩

/-- An error behind a map is one of the computation. -/
theorem eq_error_of_map {f : α → β} {x : Except ε α} {e : ε} (h : x.map f = .error e) :
    x = .error e := by
  cases x with
  | error => exact congrArg Except.error (Except.error.inj h)
  | ok a => cases h

/-- An error of two computations is one of the first, or one of the second on a result of
the first. -/
theorem eq_error_of_bind {x : Except ε α} {f : α → Except ε β} {e : ε}
    (h : x >>= f = .error e) : x = .error e ∨ ∃ a, x = .ok a ∧ f a = .error e := by
  cases x with
  | error => exact .inl (congrArg Except.error (Except.error.inj h))
  | ok a => exact .inr ⟨a, rfl, h⟩

/-- The results of two computations are those of the second on results of the first. -/
theorem bind_eq_ok_iff {x : Except ε α} {f : α → Except ε β} {b : β} :
    x >>= f = .ok b ↔ ∃ a, x = .ok a ∧ f a = .ok b := by
  refine ⟨exists_of_bind_eq_ok, ?_⟩
  rintro ⟨a, rfl, h⟩
  exact h

/-- A computation over a list gives a result for each element. -/
theorem mapM_eq_ok_iff {f : α → Except ε β} {xs : List α} {ys : List β} :
    xs.mapM f = .ok ys ↔ List.Forall₂ (fun x y => f x = .ok y) xs ys := by
  induction xs generalizing ys with
  | nil => cases ys <;> simp [pure, Except.pure]
  | cons x xs ih =>
    rw [List.mapM_cons, bind_eq_ok_iff]
    constructor
    · rintro ⟨y, hy, h⟩
      rcases exists_of_bind_eq_ok h with ⟨zs, hzs, hlist⟩
      cases hlist
      exact .cons hy (ih.mp hzs)
    · rintro (_ | ⟨hy, hys⟩)
      exact ⟨_, hy, bind_eq_ok_iff.mpr ⟨_, ih.mpr hys, rfl⟩⟩

/-- A computation over a list succeeds when it does on each element. -/
theorem exists_mapM_eq_ok_iff {f : α → Except ε β} {xs : List α} :
    (∃ ys, xs.mapM f = .ok ys) ↔ ∀ x ∈ xs, ∃ y, f x = .ok y := by
  induction xs with
  | nil => simp [pure, Except.pure]
  | cons x xs ih =>
    simp only [List.forall_mem_cons, ← ih, mapM_eq_ok_iff, List.forall₂_cons_left_iff]
    constructor
    · rintro ⟨_, y, ys, hy, hys, rfl⟩
      exact ⟨⟨y, hy⟩, ys, hys⟩
    · rintro ⟨⟨y, hy⟩, ys, hys⟩
      exact ⟨y :: ys, y, ys, hy, hys, rfl⟩

/-- An error of a computation over a list is one on an element. -/
theorem exists_of_mapM_eq_error {f : α → Except ε β} {xs : List α} {e : ε}
    (h : xs.mapM f = .error e) : ∃ x ∈ xs, f x = .error e := by
  induction xs with
  | nil => cases h
  | cons x xs ih =>
    rw [List.mapM_cons] at h
    rcases eq_error_of_bind h with h | ⟨y, -, h⟩
    · exact ⟨x, List.mem_cons_self, h⟩
    · rcases eq_error_of_bind h with h | ⟨ys, -, h⟩
      · rcases ih h with ⟨x, hx, h⟩
        exact ⟨x, List.mem_cons_of_mem _ hx, h⟩
      · cases h

end Results

/-! ## Runs -/

namespace Run

variable {α β : Type}

/-- A value stays when errors are changed. -/
@[simp]
theorem mapError_pure (f : Error → Error) (value : α) :
    mapError f (pure value) = pure value :=
  rfl

/-- An error is changed. -/
@[simp]
theorem mapError_throw (f : Error → Error) (error : Error) :
    mapError f (throw error : Run α) = throw (f error) :=
  rfl

/-- An error stops what follows. -/
@[simp]
theorem throw_bind (error : Error) (next : α → Run β) :
    (throw error : Run α) >>= next = throw error :=
  rfl

/-- An error is no value. -/
theorem throw_ne_pure (error : Error) (value : α) : (throw error : Run α) ≠ pure value := by
  intro h
  have hrun := congrFun h (Tables.ofFiles .none)
  cases congrArg Prod.fst hrun

/-- Values are told apart. -/
theorem pure_inj {value value' : α} (h : (pure value : Run α) = pure value') :
    value = value' := by
  have hrun := congrFun h (Tables.ofFiles .none)
  exact Except.ok.inj (congrArg Prod.fst hrun)

/-- Errors are told apart. -/
theorem throw_inj {error error' : Error} (h : (throw error : Run α) = throw error') :
    error = error' := by
  have hrun := congrFun h (Tables.ofFiles .none)
  exact Except.error.inj (congrArg Prod.fst hrun)

/-- A run that gives a value, and neither stops nor touches the tables. -/
def Settled (run : Run α) : Prop :=
  ∃ value, run = pure value

/-- A value is settled. -/
theorem settled_pure (value : α) : Settled (pure value) :=
  ⟨value, rfl⟩

/-- Settled runs one after the other are settled. -/
theorem Settled.bind {run : Run α} {next : α → Run β} (h : run.Settled)
    (hnext : ∀ value, (next value).Settled) : (run >>= next).Settled := by
  rcases h with ⟨value, rfl⟩
  rw [pure_bind]
  exact hnext value

/-- A settled run raises no error that could be changed. -/
theorem Settled.mapError {run : Run α} (h : run.Settled) (f : Error → Error) :
    (run.mapError f).Settled := by
  rcases h with ⟨value, rfl⟩
  exact ⟨value, mapError_pure f value⟩

end Run

end Reshape
