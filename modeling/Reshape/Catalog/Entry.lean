import Reshape.Registry

/-!
# Entries of the catalog

An operation of the catalog is a total function of the running value and its
arguments.  Which numbers of arguments it takes is part of its body, so a wrong number
is the only error that it can raise.

Main results:

- Theorem `run_eq_ok_iff`: a body fails exactly when the number of arguments is wrong.
- Definition `Entry.registration`: how an entry is registered.
-/

namespace Reshape

namespace Catalog

/-- What an operation computes from the running value and its arguments. -/
inductive Body where
  | alone (f : Json → Json)
  | withOne (f : Json → Json → Json)
  | withTwo (f : Json → Json → Json → Json)
  | withOptional (f : Json → Option Json → Json)
  | withAny (f : Json → List Json → Json)

namespace Body

/-- The numbers of arguments that a body takes. -/
def takes : Body → Nat → Bool
  | alone _, count => count == 0
  | withOne _, count => count == 1
  | withTwo _, count => count == 2
  | withOptional _, count => count ≤ 1
  | withAny _, _ => true

/-- Runs a body on the running value and its arguments. -/
def run : Body → Json → List Json → Except ArgumentFault Json
  | alone f, value, [] => .ok (f value)
  | alone _, _, arguments => .error (.count 0 arguments.length)
  | withOne f, value, [a] => .ok (f value a)
  | withOne _, _, arguments => .error (.count 1 arguments.length)
  | withTwo f, value, [a, b] => .ok (f value a b)
  | withTwo _, _, arguments => .error (.count 2 arguments.length)
  | withOptional f, value, [] => .ok (f value none)
  | withOptional f, value, [a] => .ok (f value (some a))
  | withOptional _, _, arguments => .error (.countAbove 1 arguments.length)
  | withAny f, value, arguments => .ok (f value arguments)

/-- A body fails exactly when the number of arguments is wrong. -/
theorem run_eq_ok_iff (body : Body) (value : Json) (arguments : List Json) :
    (∃ result, body.run value arguments = .ok result) ↔ body.takes arguments.length := by
  cases body <;> match arguments with
    | [] => simp [run, takes]
    | [_] => simp [run, takes]
    | [_, _] => simp [run, takes]
    | _ :: _ :: _ :: _ => simp [run, takes]

end Body

/-- An operation of the catalog with its name.  One that propagates null is not run when
the running value or an argument is null. -/
structure Entry where
  name : String
  propagatesNull : Bool
  body : Body

namespace Entry

/-- An operation that handles null itself. -/
def direct (name : String) (body : Body) : Entry :=
  ⟨name, false, body⟩

/-- An operation that propagates null. -/
def maybe (name : String) (body : Body) : Entry :=
  ⟨name, true, body⟩

/-- The operation of an entry, which leaves the name and the place in its errors open. -/
def operation (entry : Entry) : Operation := fun value arguments =>
  match entry.body.run value arguments with
  | .ok result => pure result
  | .error fault => throw (.invalidArguments "" "" fault)

/-- How an entry is registered. -/
def registration (entry : Entry) : Registration :=
  if entry.propagatesNull then .maybe entry.name entry.operation
  else .operation entry.name entry.operation

end Entry

end Catalog

end Reshape
