import Reshape.Files.Tables
import Reshape.Template

/-!
# Registries

A registry holds the operations that expressions can name and, in a table of its own,
the callbacks that calls can name.  The last registration under a name is the one that
counts.

Main results:

- Definition `Operation.maybe`: null propagation.
- Definition `extend`: a registry after a run of registrations.
- Theorems `operation?_register`, `callback?_registerCallback`: what is found after a
  registration.
-/

namespace Reshape

/-- An operation takes the running value and the arguments to the next running value. -/
abbrev Operation := Json → List Json → Run Json

/-- Null propagation: when the running value or an argument is null the result is null,
and the operation is not run. -/
def Operation.maybe (operation : Operation) : Operation :=
  fun value arguments =>
    if value.isNull || arguments.any Json.isNull then pure .null
    else operation value arguments

/-- What a callback can ask of the transformer that runs it. -/
structure Engine where
  evaluate : Json → String → Run Json
  transform : Json → Template → String → Run Json
  apply : Template → Json → Run Json

/-- What a callback is told besides the value: the parameters and the place of the call,
and the transformer that runs it. -/
structure Invocation where
  parameters : Fields Json
  location : String
  engine : Engine

/-- A parameter of the call. -/
def Invocation.parameter? (invocation : Invocation) (name : String) : Option Json :=
  Fields.get? name invocation.parameters

/-- A callback takes the evaluated value of a call to its result. -/
abbrev Callback := Json → Invocation → Run Json

/-- The operations and the callbacks by name. -/
structure Registry where
  operations : Fields Operation
  callbacks : Fields Callback

namespace Registry

/-- No operations and no callbacks. -/
def empty : Registry :=
  ⟨[], []⟩

/-! ## Registration -/

/-- Registers an operation that handles null itself. -/
def register (r : Registry) (name : String) (operation : Operation) : Registry :=
  { r with operations := Fields.set name operation r.operations }

/-- Registers an operation with null propagation. -/
def registerMaybe (r : Registry) (name : String) (operation : Operation) : Registry :=
  r.register name operation.maybe

/-- Registers a callback. -/
def registerCallback (r : Registry) (name : String) (callback : Callback) : Registry :=
  { r with callbacks := Fields.set name callback r.callbacks }

end Registry

/-- What can be registered under a name: an operation that handles null itself, one with
null propagation, or a callback. -/
inductive Registration where
  | operation (name : String) (operation : Operation)
  | maybe (name : String) (operation : Operation)
  | callback (name : String) (callback : Callback)

namespace Registry

/-- Makes one registration. -/
def add (r : Registry) : Registration → Registry
  | .operation name operation => r.register name operation
  | .maybe name operation => r.registerMaybe name operation
  | .callback name callback => r.registerCallback name callback

/-- Makes registrations from first to last. -/
def extend (r : Registry) (registrations : List Registration) : Registry :=
  registrations.foldl add r

/-- Two runs of registrations are one run. -/
theorem extend_append (r : Registry) (first second : List Registration) :
    r.extend (first ++ second) = (r.extend first).extend second :=
  List.foldl_append

/-! ## Lookup -/

/-- The operation under a name. -/
def operation? (r : Registry) (name : String) : Option Operation :=
  Fields.get? name r.operations

/-- The callback under a name. -/
def callback? (r : Registry) (name : String) : Option Callback :=
  Fields.get? name r.callbacks

/-- Whether there is an operation under a name. -/
def contains (r : Registry) (name : String) : Bool :=
  (r.operation? name).isSome

/-- The names of the operations in ascending order. -/
def names (r : Registry) : List String :=
  Fields.names r.operations

/-- What is found after an operation is registered. -/
theorem operation?_register (r : Registry) (name other : String) (operation : Operation) :
    (r.register name operation).operation? other =
      if name = other then some operation else r.operation? other :=
  Fields.get?_set name other operation r.operations

/-- What is found after a callback is registered. -/
theorem callback?_registerCallback (r : Registry) (name other : String) (callback : Callback) :
    (r.registerCallback name callback).callback? other =
      if name = other then some callback else r.callback? other :=
  Fields.get?_set name other callback r.callbacks

/-- Operations and callbacks do not share their names. -/
@[simp]
theorem callback?_register (r : Registry) (name other : String) (operation : Operation) :
    (r.register name operation).callback? other = r.callback? other :=
  rfl

/-- Callbacks and operations do not share their names. -/
@[simp]
theorem operation?_registerCallback (r : Registry) (name other : String) (callback : Callback) :
    (r.registerCallback name callback).operation? other = r.operation? other :=
  rfl

end Registry

end Reshape
