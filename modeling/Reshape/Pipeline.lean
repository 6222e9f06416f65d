import Reshape.Expression.Literal
import Reshape.Expression.Token
import Reshape.Registry

/-!
# Pipelines

An expression is a pipeline: a selector picks the starting value from the source, and
each stage behind a separator applies an operation to the running value.  The arguments
of an operation are always taken from the source.

Main results:

- Definition `Segment.ofTokens`: the segments between the separators.
- Definition `applyOperation`: what an operation name means.
- Definition `evaluate`: the value of an expression.
-/

namespace Reshape

/-! ## Segments -/

/-- The tokens between two separators. -/
abbrev Segment := List Token

namespace Segment

/-- The token that separates segments. -/
def separator : Token :=
  .symbol '$'

/-- The segments between the separators.  There is always at least one. -/
def ofTokens : List Token → List Segment
  | [] => [[]]
  | token :: tokens =>
    if token = separator then [] :: ofTokens tokens
    else (ofTokens tokens).modifyHead (token :: ·)

/-- The segments of an expression. -/
def scan (expression : String) : Except Malformation (List Segment) :=
  (Token.scan expression.toList).map ofTokens

end Segment

/-! ## Operations -/

/-- The index that an operation name stands for: an optional minus sign and digits, in the
range of 64 bits. -/
def indexNamed? (name : String) : Option Int :=
  let (negative, digits) :=
    match name.toList with
    | '-' :: rest => (true, rest)
    | cs => (false, cs)
  let size : Int := natOfDigits digits
  let index := if negative then -size else size
  if !digits.isEmpty && digits.all Char.isDigit && isSigned64 index then some index else none

/-- The element of a list at an index.  Negative indexes count from the end. -/
def elementAt? {α : Type} (xs : List α) (index : Int) : Option α :=
  let position := if index < 0 then index + xs.length else index
  if position < 0 then none else xs[position.toNat]?

/-- The item of an array or the character of a string at an index, null for others. -/
def Json.elementAt (v : Json) (index : Int) : Json :=
  match v with
  | .array items => (elementAt? items index).getD .null
  | .string s => ((elementAt? s.toList index).map fun c => .ofChars [c]).getD .null
  | _ => .null

/-- Applies an operation by name: a registered operation, an index, or a selector, which
is a path behind a point. -/
def applyOperation (r : Registry) (value : Json) (name : String) (arguments : List Json)
    (location : String) : Run Json :=
  match r.operation? name with
  | some operation => (operation value arguments).mapError (·.raisedBy name location)
  | none =>
    match indexNamed? name with
    | some index => pure (value.elementAt index)
    | none =>
      match name.toList with
      | '.' :: path =>
        if arguments.isEmpty then pure (value.extract (String.ofList path))
        else throw (.malformed (.selectorArguments name) location)
      | _ => throw (.unknownOperation name location)

/-! ## Evaluation -/

/-- The starting value that the first segment selects.  Without a selector, and for a
star, it is the whole source; further tokens are of no account. -/
def startValue (source : Json) : Segment → Json
  | [] => source
  | token :: _ => if token.text = "*" then source else source.extract token.text

/-- Applies the stages behind the segment `prior` to a running value. -/
def runStages (r : Registry) (source : Json) (location : String) (prior : Segment)
    (value : Json) : List Segment → Run Json
  | [] => pure value
  | [] :: _ =>
    throw (.malformed (.missingOperation ((prior.head?.map Token.text).getD "")) location)
  | (name :: arguments) :: stages => do
    let value ← applyOperation r value name.text
      (arguments.map fun token => resolveArgument token.text source) location
    runStages r source location (name :: arguments) value stages

/-- The value of an expression on a source. -/
def evaluate (r : Registry) (source : Json) (expression location : String) : Run Json :=
  if expression.isEmpty then
    pure .null
  else if expression = "*" then
    pure source
  else
    match Segment.scan expression with
    | .error fault => throw (.malformed fault location)
    | .ok [] => pure .null
    | .ok (selector :: stages) =>
      runStages r source location selector (startValue source selector) stages

end Reshape
