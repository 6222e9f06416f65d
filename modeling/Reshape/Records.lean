import Reshape.Transformer

/-!
# Nested records

The callback for nested records takes a template as a parameter and transforms the
records in the value of its call: one record, or the records in arrays of any depth.
Everything that is neither a record nor an array stays as it is.

Main results:

- Definition `transformRecords`: the records in a value.
- Definition `recordsCallback`: the callback.
-/

namespace Reshape

/-- The first of two parameters that is given. -/
def Invocation.eitherParameter? (invocation : Invocation) (name alternative : String) :
    Option Json :=
  (invocation.parameter? name).or (invocation.parameter? alternative)

mutual

/-- Transforms the records in a value.  A record in an array has the place of the array
with its index added. -/
def transformRecords (transform : Json → Template → String → Run Json) (template : Template)
    (location : String) : Json → Run Json
  | .object fields => transform (.object fields) template location
  | .array items => do
    return .array (← transformItems transform template location 0 items)
  | value => pure value

/-- Transforms the records in items. -/
def transformItems (transform : Json → Template → String → Run Json) (template : Template)
    (location : String) (index : Nat) : List Json → Run (List Json)
  | [] => pure []
  | item :: items => do
    let value ← transformRecords transform template (placeIn location (toString index)) item
    return value :: (← transformItems transform template location (index + 1) items)

end

/-- The callback for nested records.  Its template is the parameter `template`, or else
`config_json`. -/
def recordsCallback : Callback := fun value invocation =>
  match invocation.eitherParameter? "template" "config_json" with
  | none =>
    throw (.malformed (.missingParameter "transform" "template" "config_json")
      invocation.location)
  | some config => do
    let template ← Run.ofExcept (Template.ofConfig config)
    transformRecords invocation.engine.transform template invocation.location value

end Reshape
