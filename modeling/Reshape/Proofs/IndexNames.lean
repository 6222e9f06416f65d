import Reshape.Proofs.Composition
import Reshape.Proofs.NumeralTexts
import Reshape.Proofs.StandardRegistry

/-!
# Integers as names of operations

Digits as the name of an operation, with or without a minus sign, stand for an integer, and
take the element at that index from an array or from the characters of a string.  An index
that is outside in either direction takes null.

The integer has to fit 64 bits.  A name of more digits is not taken for an index outside but
for the name of an operation that is not known, although no array is that long.

Main results:

- Definition `IntegerName`: the names that stand for integers.
- Structure `IsElementAt`: what an index takes from elements.
- Theorem `isElementAt_elementAt?`: an index counts from the start or from the end.
- Theorem `indexNamed?_of_integerName`: which names are taken for an index.
- Theorem `applyOperation_integer`: an integer as the name of an operation.
-/

namespace Reshape

/-! ## Elements -/

/-- The elements of a value: the items of an array or the characters of a string. -/
def Json.elements : Json → List Json
  | .array items => items
  | .string s => characters s
  | _ => []

/-- What an index takes from elements.  It counts from the start, or from the end when it is
negative, and takes null outside. -/
structure IsElementAt (elements : List Json) (index : Int) (result : Json) : Prop where
  fromStart : ∀ i (h : i < elements.length), index = i → result = elements[i]
  fromEnd : ∀ i (h : i < elements.length), index = i - elements.length → result = elements[i]
  outside : index < -elements.length ∨ elements.length ≤ index → result = .null

section Elements

variable {α : Type} (xs : List α)

/-- An index counts from the start. -/
theorem elementAt?_natCast (i : Nat) : elementAt? xs i = xs[i]? := by
  have hpos : ¬(i : Int) < 0 := by omega
  simp [elementAt?, hpos]

/-- A negative index counts from the end. -/
theorem elementAt?_sub_length {i : Nat} (h : i < xs.length) :
    elementAt? xs (i - xs.length) = xs[i]? := by
  have hneg : (i : Int) - xs.length < 0 := by omega
  simp [elementAt?, hneg]

/-- There is no element outside. -/
theorem elementAt?_eq_none {index : Int} (h : index < -xs.length ∨ xs.length ≤ index) :
    elementAt? xs index = none := by
  by_cases hneg : index < 0
  · have hfront : index + xs.length < 0 := by omega
    simp [elementAt?, hneg, hfront]
  · have hback : xs.length ≤ index.toNat := by omega
    simp [elementAt?, hneg, hback]

end Elements

/-- The element at an index is counted from the start or from the end. -/
theorem isElementAt_elementAt? (elements : List Json) (index : Int) :
    IsElementAt elements index ((elementAt? elements index).getD .null) where
  fromStart i h heq := by rw [heq, elementAt?_natCast, List.getElem?_eq_getElem h, Option.getD_some]
  fromEnd i h heq := by
    rw [heq, elementAt?_sub_length elements h, List.getElem?_eq_getElem h, Option.getD_some]
  outside h := by rw [elementAt?_eq_none elements h, Option.getD_none]

/-- The element at an index does not depend on how the elements are written. -/
theorem elementAt?_map {α β : Type} (f : α → β) (xs : List α) (index : Int) :
    elementAt? (xs.map f) index = (elementAt? xs index).map f := by
  unfold elementAt?
  rw [List.length_map]
  generalize (if index < 0 then index + (xs.length : Int) else index) = position
  by_cases hposition : position < 0 <;> simp [hposition]

/-- An index takes an element of a value. -/
theorem Json.elementAt_eq_getD (v : Json) (index : Int) :
    v.elementAt index = (elementAt? v.elements index).getD .null := by
  cases v with
  | array items => rfl
  | string s => rw [elements, characters, elementAt?_map]; rfl
  | null | bool | number | object => simp [elementAt, elements, elementAt?]

/-! ## Names -/

/-- The names that stand for integers: digits, with or without a minus sign. -/
inductive IntegerName : String → Int → Prop
  | natural {digits : List Char} (hne : digits ≠ []) (h : IsDigits digits) :
      IntegerName (String.ofList digits) (natOfDigits digits)
  | negative {digits : List Char} (hne : digits ≠ []) (h : IsDigits digits) :
      IntegerName (String.ofList ('-' :: digits)) (-natOfDigits digits)

/-- A name that stands for an integer is taken for an index when the integer fits 64 bits. -/
theorem indexNamed?_of_integerName {name : String} {index : Int} (h : IntegerName name index) :
    indexNamed? name = if isSigned64 index then some index else none := by
  cases h with
  | @natural digits hne h =>
    have hminus : '-' ∉ digits := h.notMem (by decide)
    unfold indexNamed?
    rw [String.toList_ofList]
    split
    · rename_i negative chosen hparts
      split at hparts
      · exact absurd List.mem_cons_self hminus
      · cases hparts
        simp [hne, List.all_eq_true.mpr h]
  | @negative digits hne h =>
    unfold indexNamed?
    rw [String.toList_ofList]
    simp [hne, List.all_eq_true.mpr h]

/-- A name that stands for an integer does not start with a point. -/
theorem IntegerName.head?_ne_point {name : String} {index : Int} (h : IntegerName name index) :
    name.toList.head? ≠ some '.' := by
  cases h with
  | natural hne h =>
    intro hhead
    rw [String.toList_ofList] at hhead
    exact h.notMem (by decide : ¬Char.isDigit '.') (List.mem_of_mem_head? hhead)
  | negative hne h => simp

/-! ## Operations -/

section Operations

variable {r : Registry} {name : String} (hnone : r.operation? name = none)

include hnone

/-- A name that is no index and does not start with a point is not known. -/
theorem applyOperation_unknown (hindex : indexNamed? name = none)
    (hpoint : name.toList.head? ≠ some '.') (value : Json) (arguments : List Json)
    (location : String) :
    applyOperation r value name arguments location = throw (.unknownOperation name location) := by
  unfold applyOperation
  rw [hnone, hindex]
  dsimp only
  split
  · rename_i heq
    rw [heq] at hpoint
    exact absurd rfl hpoint
  · rfl

/-- An integer as the name of an operation that is not registered takes the element at that
index, and nothing stops it, as long as the integer fits 64 bits.  Beyond that the name is not
known. -/
theorem applyOperation_integer {index : Int} (hname : IntegerName name index) (value : Json)
    (arguments : List Json) (location : String) :
    (isSigned64 index → ∃ result,
      applyOperation r value name arguments location = pure result ∧
        IsElementAt value.elements index result) ∧
    (¬isSigned64 index →
      applyOperation r value name arguments location =
        throw (.unknownOperation name location)) := by
  have hindex := indexNamed?_of_integerName hname
  constructor
  · intro hrange
    rw [if_pos hrange] at hindex
    refine ⟨value.elementAt index, applyOperation_index r location hnone hindex value arguments, ?_⟩
    rw [Json.elementAt_eq_getD]
    exact isElementAt_elementAt? value.elements index
  · intro hrange
    rw [if_neg hrange] at hindex
    exact applyOperation_unknown hnone hindex hname.head?_ne_point value arguments location

end Operations

/-- No operation of the catalog has digits for a name. -/
theorem operation?_catalog_digits :
    Registry.catalog.operation? "-02" = none ∧
      Registry.catalog.operation? "9223372036854775808" = none := by
  constructor <;> exact Registry.operation?_catalog_eq_none (by decide)

/-- The integer of the name `9223372036854775808` has one bit too many. -/
theorem integerName_beyond : IntegerName "9223372036854775808" 9223372036854775808 :=
  IntegerName.natural (by decide) (by decide)

/-- The last but one character, and an integer of one bit too many. -/
theorem applyOperation_integer_edges :
    Registry.catalog.operation? "-02" = none ∧ IntegerName "-02" (-2) ∧
    applyOperation .catalog (.string "aéz") "-02" [] ".out" = pure (.string "é") ∧
    Registry.catalog.operation? "9223372036854775808" = none ∧
    IntegerName "9223372036854775808" 9223372036854775808 ∧
    applyOperation .catalog (.string "aéz") "9223372036854775808" [] ".out" =
      throw (.unknownOperation "9223372036854775808" ".out") := by
  obtain ⟨hback, hbeyond⟩ := operation?_catalog_digits
  have hminus : IntegerName "-02" (-2) := IntegerName.negative (by decide) (by decide)
  obtain ⟨result, hrun, helement⟩ :=
    (applyOperation_integer hback hminus (.string "aéz") [] ".out").1 (by decide)
  have hresult : result = .string "é" := helement.fromEnd 1 (by decide) (by decide)
  have hunknown :=
    (applyOperation_integer hbeyond integerName_beyond (.string "aéz") [] ".out").2 (by decide)
  exact ⟨hback, hminus, hresult ▸ hrun, hbeyond, integerName_beyond, hunknown⟩

/-- An integer that is outside of every array does not take null when it has too many bits, but
stops the expression. -/
theorem not_settled_of_integerName :
    ¬∀ (r : Registry) (name : String) (index : Int), r.operation? name = none →
      IntegerName name index → ∀ (value : Json) (location : String),
        ∃ result, applyOperation r value name [] location = pure result := by
  intro h
  have hbeyond := operation?_catalog_digits.2
  obtain ⟨result, hresult⟩ := h .catalog _ _ hbeyond integerName_beyond (.array []) ""
  have hindex : indexNamed? "9223372036854775808" = none := by decide
  rw [applyOperation_unknown hbeyond hindex (by decide)] at hresult
  exact Run.throw_ne_pure _ _ hresult

end Reshape
