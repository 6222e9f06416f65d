import Reshape.Json.Basic

/-!
# Order of JSON values

Values are compared by what they mean: numbers by size, whether they are integers or
not, and containers part by part.  Two values of different kinds are never equal and
cannot be ordered, and neither can objects.

Main results:

- Definition `equals`: equality by meaning.
- Definition `compare?`: the order of values of one kind.
- Definition `isTruthy`: the values that count as true.
-/

namespace Reshape

namespace Json

/-! ## Equality by meaning -/

mutual

/-- Equality by meaning. -/
def equals : Json → Json → Bool
  | null, null => true
  | bool a, bool b => a == b
  | number a, number b => a.quantity.equals b.quantity
  | string a, string b => a == b
  | array xs, array ys => equalsItems xs ys
  | object xs, object ys => xs.length == ys.length && equalsFields xs ys
  | _, _ => false

/-- Items are equal in pairs. -/
def equalsItems : List Json → List Json → Bool
  | [], [] => true
  | x :: xs, y :: ys => equals x y && equalsItems xs ys
  | _, _ => false

/-- Each field is equal to the one of the same name. -/
def equalsFields : List (String × Json) → Fields Json → Bool
  | [], _ => true
  | (name, x) :: xs, ys =>
    (match Fields.get? name ys with
      | some y => equals x y
      | none => false) && equalsFields xs ys

end

/-! ## Order -/

/-- The order of the truth values. -/
def compareBool : Bool → Bool → Ordering
  | false, true => .lt
  | true, false => .gt
  | _, _ => .eq

mutual

/-- The order of two values of one kind. -/
def compare? : Json → Json → Option Ordering
  | number a, number b => a.quantity.compare? b.quantity
  | string a, string b => some (compare a b)
  | bool a, bool b => some (compareBool a b)
  | array xs, array ys => compareItems? xs ys
  | _, _ => none

/-- The order of two arrays: that of the first items that differ, and the shorter array
first when there are none. -/
def compareItems? : List Json → List Json → Option Ordering
  | [], [] => some .eq
  | [], _ :: _ => some .lt
  | _ :: _, [] => some .gt
  | x :: xs, y :: ys =>
    (compare? x y).bind fun
      | .eq => compareItems? xs ys
      | order => some order

end

/-! ## Truth -/

/-- Whether a value counts as true: null, false, zero and everything empty do not. -/
def isTruthy : Json → Bool
  | null => false
  | bool b => b
  | number n => n.quantity.isNonzero
  | string s => !s.isEmpty
  | array items => !items.isEmpty
  | object fields => !fields.isEmpty

end Json

end Reshape
