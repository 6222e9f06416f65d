import Reshape.Json.Printer
import Reshape.Text.Quoted

/-!
# Descriptions of JSON values

Messages about a template describe an unexpected value with its kind spelled out, such
as `Number(1)` or `Array [Bool(true), Null]`, and its strings quoted for a message.

Main results:

- Definition `describe`: the description of a value.
-/

namespace Reshape

namespace Json

mutual

/-- The description of a value: its kind and what it holds. -/
def describe : Json → List Char
  | null => "Null".toList
  | bool b => "Bool(".toList ++ (if b then "true" else "false").toList ++ [')']
  | number n => "Number(".toList ++ n.render ++ [')']
  | string s => "String(".toList ++ Text.quote s.toList ++ [')']
  | array [] => "Array []".toList
  | array (item :: items) => "Array [".toList ++ describe item ++ describeItems items ++ [']']
  | object [] => "Object ".toList ++ ['{', '}']
  | object ((name, value) :: fields) =>
    "Object ".toList ++ '{' :: Text.quote name.toList ++ ':' :: ' ' :: describe value ++
      describeFields fields ++ ['}']

/-- Further items, a comma and a space before each. -/
def describeItems : List Json → List Char
  | [] => []
  | item :: items => ',' :: ' ' :: describe item ++ describeItems items

/-- Further fields, a comma and a space before each. -/
def describeFields : List (String × Json) → List Char
  | [] => []
  | (name, value) :: fields =>
    ',' :: ' ' :: Text.quote name.toList ++ ':' :: ' ' :: describe value ++ describeFields fields

end

end Json

end Reshape
