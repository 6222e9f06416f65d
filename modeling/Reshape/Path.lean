import Reshape.Decimal.Numeral
import Reshape.Error
import Reshape.Text.Search

/-!
# Paths into a value

A path such as `orders[0].lines.2.price` is a list of levels.  A level is a key, or a
key with an index in brackets; the key before an index may be missing.  A key of
digits selects an item when the value it meets is an array.

Main results:

- Definition `Path.parse`: the levels of a path.
- Definition `Json.follow?`: the value that levels lead to.
- Definition `Json.extract`: the value at a path, null when there is none.
-/

namespace Reshape

/-- One level of a path: a key, or a key that may be empty and an index. -/
inductive Level where
  | key (id : String)
  | item (id : String) (index : Nat)
deriving DecidableEq

/-- The natural number of at most 64 bits that a text stands for, a plus sign allowed. -/
def readIndex? (cs : List Char) : Option Nat :=
  let digits :=
    match cs with
    | '+' :: rest => rest
    | cs => cs
  if !digits.isEmpty && digits.all Char.isDigit && isUnsigned64 (natOfDigits digits) then
    some (natOfDigits digits)
  else
    none

namespace Path

/-! ## Levels -/

/-- The texts of the levels in a piece between points.  Closing brackets end levels, and
nothing is left behind the last one. -/
def levelTexts (piece : List Char) : List (List Char) :=
  let texts := Text.splitOn [']'] piece
  if texts.getLast? = some [] then texts.dropLast else texts

/-- The level that a text stands for: what follows an opening bracket is an index. -/
def level (text : List Char) : Except PathFault Level :=
  match text.dropWhile (· != '[') with
  | [] => .ok (.key (String.ofList text))
  | _ :: digits =>
    match readIndex? digits with
    | some index => .ok (.item (String.ofList (text.takeWhile (· != '['))) index)
    | none => .error (.badIndex (String.ofList text))

/-- The levels of a path, or the first one that is none. -/
def parse (path : String) : Except PathFault (List Level) :=
  ((Text.splitOn ['.'] path.toList).flatMap levelTexts).mapM level

end Path

namespace Json

/-! ## Following a path -/

/-- The value under a key: a field of an object, or an item of an array. -/
def child? (v : Json) (id : String) : Option Json :=
  match v with
  | object fields => Fields.get? id fields
  | array items => (readIndex? id.toList).bind fun index => items[index]?
  | _ => none

/-- The item of an array. -/
def item? (v : Json) (index : Nat) : Option Json :=
  match v with
  | array items => items[index]?
  | _ => none

/-- The value one level down. -/
def descend? (v : Json) : Level → Option Json
  | .key id => v.child? id
  | .item id index => (if id.isEmpty then some v else v.child? id).bind (·.item? index)

/-- The value that levels lead to. -/
def follow? (v : Json) : List Level → Option Json
  | [] => some v
  | level :: levels => (v.descend? level).bind (·.follow? levels)

/-- The value at a path.  The empty path leads to the value itself, and a path that does
not lead anywhere or is malformed to null. -/
def extract (v : Json) (path : String) : Json :=
  if path.isEmpty then
    v
  else
    match Path.parse path with
    | .ok levels => (v.follow? levels).getD null
    | .error _ => null

end Json

end Reshape
