import Reshape.Error

/-!
# Templates

A template has the shape of the output.  Its leaves are expressions, which are
evaluated against the source, and literals, which are copied; a call evaluates an
expression and hands the result to a function with parameters.

Main results:

- Definition `ofJson`: the plain reading of a value as a template.
- Definition `ofConfig`: the reading in which objects with two marked keys are calls.
- Definition `toJson`: the value that a template is written as.
- Definition `callDepth`: a bound on how deep calls can nest.
-/

namespace Reshape

/-- A template.  The fields of a mapping ascend by name. -/
inductive Template where
  | mapping (fields : List (String × Template))
  | sequence (items : List Template)
  | expression (text : String)
  | call (expression function : String) (parameters : Fields Json)
  | literal (value : Json)
deriving Inhabited

/-- The key of the expression of a call. -/
def sourceKey : String :=
  "_source_col_name"

/-- The key of the function of a call. -/
def functionKey : String :=
  "_type_change"

namespace Template

/-! ## Plain reading -/

mutual

/-- The plain reading: objects are mappings, arrays sequences, strings expressions and all
other values literals. -/
def ofJson : Json → Template
  | .object fields => mapping (ofJsonFields fields)
  | .array items => sequence (ofJsonItems items)
  | .string text => expression text
  | value => literal value

/-- The plain reading of items. -/
def ofJsonItems : List Json → List Template
  | [] => []
  | item :: items => ofJson item :: ofJsonItems items

/-- The plain reading of fields. -/
def ofJsonFields : List (String × Json) → List (String × Template)
  | [] => []
  | (name, value) :: fields => (name, ofJson value) :: ofJsonFields fields

end

/-! ## Reading with calls -/

/-- An object is a call when it has a value other than null under both marked keys. -/
def isCall (fields : Fields Json) : Bool :=
  let present (key : String) := (Fields.get? key fields).any fun value => !value.isNull
  present sourceKey && present functionKey

/-- The string under a marked key. -/
def markedString (key : String) (fields : Fields Json) : Except Error String :=
  match Fields.get? key fields with
  | some (.string text) => .ok text
  | found => .error (.malformed (.keyNotString key (found.getD .null)) "")

/-- The function that a call names; `list` is another name of `transform`. -/
def functionNamed (name : String) : String :=
  if name = "list" then "transform" else name

/-- The call that an object stands for.  Its parameters are the other fields. -/
def callOfFields (fields : Fields Json) : Except Error Template := do
  let source ← markedString sourceKey fields
  let name ← markedString functionKey fields
  return call source (functionNamed name)
    (Fields.erase functionKey (Fields.erase sourceKey fields))

mutual

/-- The reading in which an object with the two marked keys is a call.  Every other value
reads as in the plain reading. -/
def ofConfig : Json → Except Error Template
  | .object fields =>
    if isCall fields then callOfFields fields
    else (ofConfigFields fields).map mapping
  | .array items => (ofConfigItems items).map sequence
  | .string text => .ok (expression text)
  | value => .ok (literal value)

/-- The reading of items with calls. -/
def ofConfigItems : List Json → Except Error (List Template)
  | [] => .ok []
  | item :: items => do return (← ofConfig item) :: (← ofConfigItems items)

/-- The reading of fields with calls. -/
def ofConfigFields : List (String × Json) → Except Error (List (String × Template))
  | [] => .ok []
  | (name, value) :: fields => do return (name, ← ofConfig value) :: (← ofConfigFields fields)

end

/-! ## Construction -/

/-- A call with parameters, which have to be an object. -/
def callWith (source function : String) : Json → Except Error Template
  | .object parameters => .ok (call source function parameters)
  | found => .error (.malformed (.parametersNotObject function found) "")

/-! ## Writing -/

mutual

/-- The value that a template is written as.  A call is the object of its parameters and
the two marked keys. -/
def toJson : Template → Json
  | mapping fields => .object (toJsonFields fields)
  | sequence items => .array (toJsonItems items)
  | expression text => .string text
  | call source function parameters =>
    .object <| Fields.set sourceKey (.string source) <|
      Fields.set functionKey (.string function) parameters
  | literal value => value

/-- The values that items are written as. -/
def toJsonItems : List Template → List Json
  | [] => []
  | item :: items => toJson item :: toJsonItems items

/-- The values that fields are written as. -/
def toJsonFields : List (String × Template) → List (String × Json)
  | [] => []
  | (name, template) :: fields => (name, toJson template) :: toJsonFields fields

end

end Template

/-! ## Depth -/

mutual

/-- How many containers stand around the innermost value, counting it as well. -/
def Json.depth : Json → Nat
  | .array items => Json.depthItems items + 1
  | .object fields => Json.depthFields fields + 1
  | _ => 1

/-- The greatest depth among items. -/
def Json.depthItems : List Json → Nat
  | [] => 0
  | item :: items => max (Json.depth item) (Json.depthItems items)

/-- The greatest depth among the values of fields. -/
def Json.depthFields : List (String × Json) → Nat
  | [] => 0
  | (_, value) :: fields => max (Json.depth value) (Json.depthFields fields)

end

mutual

/-- A bound on how deep calls can nest when every call reads the next template from its
parameters. -/
def Template.callDepth : Template → Nat
  | .mapping fields => Template.callDepthFields fields
  | .sequence items => Template.callDepthItems items
  | .call _ _ parameters => Json.depthFields parameters + 1
  | _ => 0

/-- The greatest bound among items. -/
def Template.callDepthItems : List Template → Nat
  | [] => 0
  | item :: items => max (Template.callDepth item) (Template.callDepthItems items)

/-- The greatest bound among fields. -/
def Template.callDepthFields : List (String × Template) → Nat
  | [] => 0
  | (_, template) :: fields => max (Template.callDepth template) (Template.callDepthFields fields)

end

end Reshape
