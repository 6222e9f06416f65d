import Reshape.Json.Basic

/-!
# Text of JSON values

A value is written without blanks, the fields of an object in the order in which it
keeps them.  In a string only the double quote, the backslash and the controls are
escaped.  A string that is taken as a text stands for itself; every other value stands
for its written form.

Main results:

- Definition `render`: the written form of a value.
- Definition `text`: what operations on texts see of a value.
-/

namespace Reshape

namespace Json

/-! ## Strings -/

/-- A character as it stands in a written string. -/
def escape (c : Char) : List Char :=
  match c with
  | '"' => ['\\', '"']
  | '\\' => ['\\', '\\']
  | '\x08' => ['\\', 'b']
  | '\x0c' => ['\\', 'f']
  | '\n' => ['\\', 'n']
  | '\r' => ['\\', 'r']
  | '\t' => ['\\', 't']
  | c =>
    if c.toNat < 0x20 then
      ['\\', 'u', '0', '0', Nat.digitChar (c.toNat / 16), Nat.digitChar (c.toNat % 16)]
    else
      [c]

/-- A written string. -/
def renderString (s : String) : List Char :=
  '"' :: s.toList.flatMap escape ++ ['"']

/-! ## Values -/

mutual

/-- The written form of a value. -/
def render : Json → List Char
  | null => ['n', 'u', 'l', 'l']
  | bool true => ['t', 'r', 'u', 'e']
  | bool false => ['f', 'a', 'l', 's', 'e']
  | number n => n.render
  | string s => renderString s
  | array [] => ['[', ']']
  | array (item :: items) => '[' :: render item ++ renderItems items ++ [']']
  | object [] => ['{', '}']
  | object ((name, value) :: fields) =>
    '{' :: renderString name ++ ':' :: render value ++ renderFields fields ++ ['}']

/-- Further items, a comma before each. -/
def renderItems : List Json → List Char
  | [] => []
  | item :: items => ',' :: render item ++ renderItems items

/-- Further fields, a comma before each. -/
def renderFields : List (String × Json) → List Char
  | [] => []
  | (name, value) :: fields =>
    ',' :: renderString name ++ ':' :: render value ++ renderFields fields

end

/-- The written form of a value as a string. -/
def compact (v : Json) : String :=
  String.ofList v.render

/-- What operations on texts see of a value: a string itself, and the written form of
every other value. -/
def text : Json → String
  | string s => s
  | v => v.compact

end Json

end Reshape
