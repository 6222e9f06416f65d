import Mathlib.Algebra.Group.Int.Defs
import Reshape.Proofs.CatalogCalls

/-!
# Sums as repeated additions

The sum of an array is kept as a quantity while the items are added, and made a value at the end.
The operation `+` makes a value of every sum on the way instead.  The two differ on the way: a sum
that has left the finite numbers is an infinity or indeterminate for the one and null for the other,
and after an item that is no number the one has stopped and the other goes on with null.  But
neither leads back, a quantity that is not finite no more than null, and finite sums read from their
values are what they were.

Main results:

- Definition `IsTotal`: the value that a sum on the way has.
- Theorem `IsTotal.add`: one more item, added in both ways.
- Theorem `IsTotal.foldlM`: all items, added in both ways.
- Theorem `sum_eq_additions`: the sum of an array is what repeated additions give.
-/

namespace Reshape

/-! ## Quantities on the way -/

namespace Binary64.Extended

/-- Nothing leads back to the finite numbers. -/
theorem not_isFinite_add {x : Extended} (h : x.isFinite = false) (y : Extended) :
    (x.add y).isFinite = false := by
  cases x with
  | finite x => simp [isFinite] at h
  | infinite s =>
    cases y with
    | finite y => simp [add, isFinite]
    | infinite t => by_cases hsign : s = t <;> simp [add, isFinite, hsign]
    | nan => simp [add, isFinite]
  | nan => cases y <;> simp [add, isFinite]

/-- Only finite numbers have values other than null. -/
theorem ofExtended_of_not_isFinite {x : Extended} (h : x.isFinite = false) :
    Json.ofExtended x = .null := by
  cases x with
  | finite x => simp [isFinite] at h
  | infinite s => simp [Json.ofExtended]
  | nan => simp [Json.ofExtended]

end Binary64.Extended

namespace Quantity

/-- A sum with a binary64 number is one. -/
theorem real_add (x : Binary64.Extended) (y : Quantity) :
    add (.real x) y = .real (x.add y.toExtended) := by
  cases y <;> simp [add, combine, toExtended]

/-- A sum is an integer only when that has 64 bits with a sign. -/
theorem isSigned64_of_add {x y : Quantity} {n : Int} (h : add x y = .exact n) : isSigned64 n := by
  cases x with
  | exact m =>
    cases y with
    | exact k =>
      by_cases hfits : isSigned64 (m + k)
      · have hn : m + k = n := by simpa [add, combine, hfits] using h
        exact hn ▸ hfits
      · simp [add, combine, hfits] at h
    | real y => simp [add, combine] at h
  | real x => simp [real_add] at h

end Quantity

open Json

/-! ## Additions of values -/

namespace Json

/-- Nothing can be added to null. -/
theorem null_add (w : Json) : add null w = null := by
  cases w <;> simp [add, computed, ofNumbers, quantity?]

/-- Null cannot be added to anything. -/
theorem add_null (v : Json) : add v null = null := by
  cases v <;> simp [add, computed, ofNumbers, quantity?]

/-- What is added to a number has to be a number. -/
theorem number_add (m : Number) (item : Json) :
    add (number m) item = ((item.quantity?.map m.quantity.add).map ofQuantity).getD null := by
  cases item <;> simp [add, computed, ofNumbers, quantity?]

/-- Null stays null, whatever is added. -/
theorem foldl_add_null (items : List Json) : items.foldl add null = null := by
  induction items with
  | nil => rfl
  | cons item items ih => simp [null_add, ih]

end Json

/-! ## The two sums -/

/-- The value that a sum on the way has.  A sum that has left the finite numbers has none, and
neither has one that an item has stopped. -/
inductive IsTotal : Option Quantity → Json → Prop
  | integer {n : Int} (h : isSigned64 n) : IsTotal (some (.exact n)) (ofInt n)
  | float (x : Binary64) : IsTotal (some (.real (.finite x))) (.number (.float x))
  | beyond {x : Binary64.Extended} (h : x.isFinite = false) : IsTotal (some (.real x)) .null
  | stopped : IsTotal none .null

namespace IsTotal

variable {total : Option Quantity} {v : Json}

/-- At the end a sum is made its value. -/
theorem value_eq (h : IsTotal total v) : (total.map ofQuantity).getD .null = v := by
  cases h with
  | integer | float | stopped => rfl
  | beyond hfinite => exact Binary64.Extended.ofExtended_of_not_isFinite hfinite

/-- The value of a sum that is finite or has 64 bits with a sign. -/
theorem of_quantity {x : Quantity} (h : ∀ n, x = .exact n → isSigned64 n) :
    IsTotal (some x) (ofQuantity x) := by
  cases x with
  | exact n => exact .integer (h n rfl)
  | real x =>
    cases x with
    | finite x => exact .float x
    | infinite | nan => exact .beyond rfl

/-- A number and one more item, added in both ways. -/
theorem of_number (m : Number) (item : Json) :
    IsTotal (item.quantity?.map m.quantity.add) (Json.add (.number m) item) := by
  rw [number_add]
  cases item.quantity? with
  | none => exact .stopped
  | some y => exact of_quantity fun n => Quantity.isSigned64_of_add

/-- One more item, added in both ways. -/
theorem add (h : IsTotal total v) (item : Json) :
    IsTotal (total.bind fun x => item.quantity?.map x.add) (Json.add v item) := by
  cases h with
  | @integer n hfits =>
    have hread : Number.quantity (.integer n) = .exact n := Number.quantity_integer hfits
    have hstep := of_number (.integer n) item
    rwa [hread] at hstep
  | float x => exact of_number (.float x) item
  | @beyond x hfinite =>
    rw [null_add, Option.bind_some]
    cases item.quantity? with
    | none => exact .stopped
    | some y =>
      rw [Option.map_some, Quantity.real_add]
      exact .beyond (Binary64.Extended.not_isFinite_add hfinite _)
  | stopped =>
    rw [null_add]
    exact .stopped

/-- All items, added in both ways. -/
theorem foldlM {x : Quantity} (h : IsTotal (some x) v) (items : List Json) :
    IsTotal (items.foldlM (fun (total : Quantity) item => item.quantity?.map total.add) x)
      (items.foldl Json.add v) := by
  induction items generalizing x v with
  | nil => exact h
  | cons item items ih =>
    have hstep := h.add item
    rw [Option.bind_some] at hstep
    rw [List.foldlM_cons, List.foldl_cons]
    cases htotal : item.quantity?.map x.add with
    | none =>
      -- The one sum stops here, and the other has become null.
      rw [htotal] at hstep
      have hnull : Json.add v item = .null := hstep.value_eq.symm
      rw [hnull, foldl_add_null]
      exact .stopped
    | some y =>
      rw [htotal] at hstep
      exact ih hstep

end IsTotal

/-- The sum of items is the value that adding them one after the other gives. -/
theorem getD_sum? (items : List Json) : (sum? items).getD .null = items.foldl Json.add (ofInt 0) :=
  ((IsTotal.integer (by decide)).foldlM items).value_eq

/-! ## Calls -/

/-- The operation `+` adds, also when null comes in. -/
theorem applyOperation_plus {r : Registry} (hr : Registry.AgreeOn {"+"} .catalog r) (v item : Json)
    (location : String) :
    applyOperation r v "+" [item] location = pure (Json.add v item) := by
  have hmem : .maybe "+" (.withOne Json.add) ∈ Catalog.entries := by
    simp [Catalog.entries, Catalog.arithmetic]
  exact hr.applyOperation_withOne_of_null hmem rfl null_add add_null v item location

section Calls

variable {r : Registry} (hr : Registry.AgreeOn {"sum", "+"} .catalog r)

include hr

/-- The operation `sum` gives the sum that it finds. -/
theorem applyOperation_sum_array (items : List Json) (location : String) :
    applyOperation r (.array items) "sum" [] location = pure ((sum? items).getD .null) := by
  have hmem : .maybe "sum" (.alone (ofItems sum?)) ∈ Catalog.entries := by
    simp [Catalog.entries, Catalog.sequences]
  exact hr.applyOperation_alone hmem (by simp) (by simp) location

/-- The sum of an array is what the operation `+` gives when it adds the items to zero from the
first to the last.  Both always give a value, whatever the items are. -/
theorem sum_eq_additions (items : List Json) (location : String) :
    ∃ total,
      applyOperation r (.array items) "sum" [] location = pure total ∧
      items.foldlM (fun total item => applyOperation r total "+" [item] location) (ofInt 0) =
        pure total := by
  refine ⟨items.foldl Json.add (ofInt 0), ?_, ?_⟩
  · rw [applyOperation_sum_array hr, getD_sum?]
  · have hplus : Registry.AgreeOn {"+"} .catalog r := hr.mono (by simp)
    simp only [applyOperation_plus hplus, List.foldlM_pure]

end Calls

/-- Two integers whose sum needs more than 64 bits, two numbers whose sum is beyond all numbers, and
one that would lead back. -/
def overflowingItems : List Json :=
  [ofInt 9223372036854775807, ofInt 1, ofExtended (.ofInt (2 ^ 1023)),
    ofExtended (.ofInt (2 ^ 1023)), ofExtended (.ofInt (-(2 ^ 1023)))]

/-- From beyond all numbers no item leads back, in neither way, though all items are numbers. -/
theorem sum_eq_additions_overflow :
    Registry.AgreeOn {"sum", "+"} .catalog .standard ∧
    (∀ item ∈ overflowingItems, item.quantity?.isSome) ∧
    applyOperation .standard (.array overflowingItems) "sum" [] ".out" = pure .null ∧
    overflowingItems.foldlM (fun total item => applyOperation .standard total "+" [item] ".out")
      (ofInt 0) = pure .null := by
  have hr : Registry.AgreeOn {"sum", "+"} .catalog .standard := Registry.agreeOn_standard (by simp)
  have hnumbers : ∀ item ∈ overflowingItems, item.quantity?.isSome := by decide +kernel
  obtain ⟨total, hsum, hadditions⟩ := sum_eq_additions hr overflowingItems ".out"
  have htotal : total = .null := by
    rw [Run.pure_inj (hsum.symm.trans (applyOperation_sum_array hr _ ".out"))]
    decide +kernel
  subst htotal
  exact ⟨hr, hnumbers, hsum, hadditions⟩

end Reshape
