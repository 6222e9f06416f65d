import Reshape.Fields
import Reshape.Json.Number

/-!
# JSON values

Documents, arguments and results are JSON values.  The fields of an object are kept
in ascending order of their names; `Valid` says so, together with the range of the
integers, and every value that is read from a text satisfies it.

Main results:

- Theorem `same_iff`: the structural test decides equality.
- Definition `Valid`: the values that texts can hold.
-/

namespace Reshape

/-- A JSON value. -/
inductive Json where
  | null
  | bool (value : Bool)
  | number (value : Number)
  | string (value : String)
  | array (items : List Json)
  | object (fields : List (String × Json))
deriving Inhabited

namespace Json

/-! ## Equality -/

mutual

/-- The structural test for equality. -/
def same : Json → Json → Bool
  | null, null => true
  | bool a, bool b => a == b
  | number a, number b => a == b
  | string a, string b => a == b
  | array xs, array ys => sameItems xs ys
  | object xs, object ys => sameFields xs ys
  | _, _ => false

/-- The structural test on items. -/
def sameItems : List Json → List Json → Bool
  | [], [] => true
  | x :: xs, y :: ys => same x y && sameItems xs ys
  | _, _ => false

/-- The structural test on fields. -/
def sameFields : List (String × Json) → List (String × Json) → Bool
  | [], [] => true
  | (k, x) :: xs, (l, y) :: ys => k == l && same x y && sameFields xs ys
  | _, _ => false

end

mutual

/-- The structural test decides equality. -/
theorem same_iff : ∀ a b : Json, same a b = true ↔ a = b
  | null, b => by cases b <;> simp [same]
  | bool _, b => by cases b <;> simp [same]
  | number _, b => by cases b <;> simp [same]
  | string _, b => by cases b <;> simp [same]
  | array xs, b => by cases b <;> simp [same, sameItems_iff xs]
  | object xs, b => by cases b <;> simp [same, sameFields_iff xs]

/-- The structural test decides equality of items. -/
theorem sameItems_iff : ∀ xs ys : List Json, sameItems xs ys = true ↔ xs = ys
  | [], ys => by cases ys <;> simp [sameItems]
  | x :: xs, ys => by cases ys <;> simp [sameItems, same_iff x, sameItems_iff xs]

/-- The structural test decides equality of fields. -/
theorem sameFields_iff :
    ∀ xs ys : List (String × Json), sameFields xs ys = true ↔ xs = ys
  | [], ys => by cases ys <;> simp [sameFields]
  | (k, x) :: xs, ys => by
    cases ys with
    | nil => simp [sameFields]
    | cons y ys =>
      obtain ⟨l, y⟩ := y
      simp [sameFields, same_iff x, sameFields_iff xs]

end

instance : DecidableEq Json :=
  fun a b => decidable_of_iff _ (same_iff a b)

/-! ## Kinds -/

/-- The null value. -/
def isNull : Json → Bool
  | null => true
  | _ => false

/-- The text of a string. -/
def string? : Json → Option String
  | string s => some s
  | _ => none

/-- The fields of an object. -/
def object? : Json → Option (Fields Json)
  | object fields => some fields
  | _ => none

/-- A number as arithmetic sees it. -/
def quantity? : Json → Option Quantity
  | number n => some n.quantity
  | _ => none

/-! ## Construction -/

/-- An integer value. -/
def ofInt (n : Int) : Json :=
  number (.integer n)

/-- A string value from its characters. -/
def ofChars (cs : List Char) : Json :=
  string (String.ofList cs)

/-- The characters of a text as strings of their own. -/
def characters (s : String) : List Json :=
  s.toList.map fun c => ofChars [c]

/-- A binary64 number, or null where there is no finite one. -/
def ofExtended : Binary64.Extended → Json
  | .finite x => number (.float x)
  | _ => null

/-- The value of a quantity. -/
def ofQuantity : Quantity → Json
  | .exact n => ofInt n
  | .real x => ofExtended x

/-! ## Validity -/

mutual

/-- Integers fit 64 bits and the names of the fields of every object ascend. -/
def Valid : Json → Prop
  | number n => n.Valid
  | array items => ValidItems items
  | object fields => Fields.Sorted fields ∧ ValidFields fields
  | _ => True

/-- Every item is valid. -/
def ValidItems : List Json → Prop
  | [] => True
  | item :: items => Valid item ∧ ValidItems items

/-- Every field holds a valid value. -/
def ValidFields : List (String × Json) → Prop
  | [] => True
  | (_, value) :: fields => Valid value ∧ ValidFields fields

end

end Json

end Reshape
