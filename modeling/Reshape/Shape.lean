import Reshape.Transformer

/-!
# Shapes of results

A caller may ask for a result of a certain shape.  A result of another shape is an
error, like a text that is not JSON.  Any type that can be read from JSON may be asked for;
the shapes here are a few of them, which stand for the others.  What a template gives does
not depend on the shape that is asked for.

Main results:

- Definition `Shape.admits`: the values of a shape.
- Definition `Transformer.applyTo`: a result of a shape.
-/

namespace Reshape

/-- The shapes that a caller can ask for. -/
inductive Shape where
  | any
  | integer
  | byte
  | string
  | bool
  | strings
  | integers
deriving DecidableEq

namespace Shape

/-- An integer in a range that ends before `limit`. -/
def isIntegerIn (first limit : Int) : Json → Bool
  | .number (.integer n) => first ≤ n && n < limit
  | _ => false

/-- An integer of 64 bits with a sign. -/
def isInteger : Json → Bool :=
  isIntegerIn (-0x8000000000000000) 0x8000000000000000

/-- The values of a shape. -/
def admits : Shape → Json → Bool
  | any, _ => true
  | integer, v => isInteger v
  | byte, v => isIntegerIn 0 256 v
  | string, .string _ => true
  | bool, .bool _ => true
  | strings, .array items => items.all fun item => item.string?.isSome
  | integers, .object fields => fields.all fun field => isInteger field.2
  | _, _ => false

end Shape

/-- The result of a template on a document, if it has a shape. -/
def Transformer.applyTo (t : Transformer) (shape : Shape) (template : Template) (source : Json) :
    Run Json := do
  let result ← t.apply template source
  if shape.admits result then return result else throw (.invalidJson "")

end Reshape
