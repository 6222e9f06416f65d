import Reshape.Catalog.Entry
import Reshape.Json.Document
import Reshape.Json.Order
import Reshape.Text.Search

/-!
# Sequences

The operations on arrays, on the characters of strings and on the fields of objects.

Main results:

- Definitions `extreme?`, `sorted?`, `sum?`, `unique`: the longer operations.
- Definition `Catalog.sequences`: the entries.
-/

namespace Reshape

namespace Json

/-! ## Ends -/

/-- The first item or character. -/
def first : Json → Json
  | array items => items.head?.getD null
  | string s => (s.toList.head?.map fun c => ofChars [c]).getD null
  | _ => null

/-- The last item or character. -/
def last : Json → Json
  | array items => items.getLast?.getD null
  | string s => (s.toList.getLast?.map fun c => ofChars [c]).getD null
  | _ => null

/-- All but the first item or character.  An empty string and null leave no items. -/
def dropFirst : Json → Json
  | null => array []
  | array items => array items.tail
  | string s => if s.isEmpty then array [] else ofChars s.toList.tail
  | _ => null

/-- All but the last item or character.  An empty string and null leave no items. -/
def dropLast : Json → Json
  | null => array []
  | array items => array items.dropLast
  | string s => if s.isEmpty then array [] else ofChars s.toList.dropLast
  | _ => null

/-- The items of an array other than null. -/
def dropNulls : Json → Json
  | array items => array (items.filter fun item => !item.isNull)
  | _ => null

/-! ## Counts -/

/-- How many items are equal to a value, or how often a text occurs in a string. -/
def count : Json → Json → Json
  | array items, sought => ofInt (items.countP fun item => item.equals sought)
  | string s, string sought => ofInt (Text.occurrences sought.toList s.toList)
  | _, _ => null

/-- The number of items, characters or fields. -/
def length : Json → Json
  | array items => ofInt items.length
  | string s => ofInt s.toList.length
  | object fields => ofInt fields.length
  | _ => null

/-! ## Order -/

/-- The first item that stands in the given order to all items before it, if each item can
be compared with the best one so far. -/
def extreme? (wanted : Ordering) : List Json → Option Json
  | [] => none
  | item :: items =>
    items.foldlM (fun best item =>
      (item.compare? best).map fun order => if order = wanted then item else best) item

/-- Each item can be compared with the next one. -/
def neighboursComparable : List Json → Bool
  | x :: y :: rest => (x.compare? y).isSome && neighboursComparable (y :: rest)
  | _ => true

/-- Puts an item among others that are in descending order, behind every greater one. -/
def insertDescending (item : Json) : List Json → List Json
  | [] => [item]
  | other :: others =>
    if item.compare? other = some .lt then other :: insertDescending item others
    else item :: other :: others

/-- The items in ascending order.  Items that are equal or cannot be compared keep their
order.  A stable sort leaves its result open where comparing is no total order on the items.
This definition picks one: that of inserting the items one after the other, each in front of
the last items as long as they are greater. -/
def sortItems (items : List Json) : List Json :=
  (items.foldl (fun sorted item => insertDescending item sorted) []).reverse

/-- The items, characters or names of a value in ascending order. -/
def sorted? (v : Json) : Option Json :=
  let items? :=
    match v with
    | array items => some items
    | string s => some (characters s)
    | object fields => some ((Fields.names fields).map string)
    | _ => none
  items?.bind fun items =>
    if neighboursComparable items then some (array (sortItems items)) else none

/-! ## Sums and repeats -/

/-- The sum of numbers.  It is an integer as long as all sums on the way are. -/
def sum? (items : List Json) : Option Json :=
  (items.foldlM (fun (total : Quantity) (item : Json) => item.quantity?.map total.add)
    (.exact 0)).map ofQuantity

/-- The items that are not equal to an earlier one. -/
def distinct (items : List Json) : List Json :=
  items.foldl (fun kept item =>
    if kept.any fun earlier => earlier.equals item then kept else kept ++ [item]) []

/-- The items or characters of a value without repeats. -/
def unique : Json → Json
  | array items => array (distinct items)
  | string s => array (distinct (characters s))
  | _ => null

/-! ## Fields -/

/-- The names of the fields. -/
def keys : Json → Json
  | object fields => array ((Fields.names fields).map string)
  | _ => null

/-- The values of the fields. -/
def values : Json → Json
  | object fields => array (fields.map Prod.snd)
  | _ => null

/-- The value under the text of another value, in a table given as an object or as a JSON
text of one. -/
def lookup (v table : Json) : Json :=
  let found (fields : Fields Json) := (Fields.get? v.text fields).getD null
  match table with
  | object fields => found fields
  | string text =>
    match ofDocument? text with
    | some (object fields) => found fields
    | _ => null
  | _ => null

/-- What an operation on arrays finds, null for other values. -/
def ofItems (f : List Json → Option Json) : Json → Json
  | array items => (f items).getD null
  | _ => null

end Json

namespace Catalog

/-- The entries for arrays, characters and fields. -/
def sequences : List Entry :=
  [.direct "first" (.alone Json.first),
   .direct "last" (.alone Json.last),
   .direct "rmFirst" (.alone Json.dropFirst),
   .direct "rmLast" (.alone Json.dropLast),
   .direct "list" (.withAny fun _ arguments => .array arguments),
   .direct "rmNull" (.alone Json.dropNulls),
   .maybe "count" (.withOne Json.count),
   .maybe "length" (.alone Json.length),
   .maybe "max" (.alone (Json.ofItems (Json.extreme? .gt))),
   .maybe "min" (.alone (Json.ofItems (Json.extreme? .lt))),
   .maybe "sorted" (.alone fun v => v.sorted?.getD .null),
   .maybe "sum" (.alone (Json.ofItems Json.sum?)),
   .maybe "unique" (.alone Json.unique),
   .maybe "keys" (.alone Json.keys),
   .maybe "values" (.alone Json.values),
   .maybe "enumChange" (.withOne Json.lookup)]

end Catalog

end Reshape
