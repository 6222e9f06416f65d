import Reshape.Json.Basic

/-!
# Dialects of written values

Written values agree on how arrays and objects are put together, and differ in their
blanks, in their scalars and names, in whether a comma may stand before a closing
bracket and in how deep containers may nest.  A dialect holds these choices, and one
reader serves every dialect.

The reader is bounded by a number of steps.  A value takes at most two steps for each
of its characters, so the bound that `read?` derives from the length of the text is
never what makes reading fail.

Main results:

- Definition `Dialect.readValue?`: the value at the front of a text.
- Definition `Dialect.read?`: the value that a whole text stands for.
-/

namespace Reshape

/-- The choices in which written values differ.  Scalars and names are read at the front
of a text.  Without `maxDepth` containers may nest without end. -/
structure Dialect where
  isBlank : Char → Bool
  readScalar? : List Char → Option (Json × List Char)
  readName? : List Char → Option (String × List Char)
  allowsTrailingComma : Bool
  maxDepth : Option Nat

namespace Dialect

/-- A text without the blanks at its start. -/
def skipBlanks (d : Dialect) (cs : List Char) : List Char :=
  cs.dropWhile d.isBlank

/-- The depth that is left inside a container, or nothing where no container fits. -/
def enter? : Option Nat → Option (Option Nat)
  | none => some none
  | some 0 => none
  | some (depth + 1) => some (some depth)

mutual

/-- The value at the front of a text, and the rest. -/
def readValue? (d : Dialect) : Nat → Option Nat → List Char → Option (Json × List Char)
  | 0, _, _ => none
  | steps + 1, depth, cs =>
    match d.skipBlanks cs with
    | '[' :: rest =>
      (enter? depth).bind fun depth =>
        match d.skipBlanks rest with
        | ']' :: rest => some (.array [], rest)
        | rest => (readItems? d steps depth rest).map fun (items, rest) => (.array items, rest)
    | '{' :: rest =>
      (enter? depth).bind fun depth =>
        match d.skipBlanks rest with
        | '}' :: rest => some (.object [], rest)
        | rest =>
          (readFields? d steps depth rest).map fun (fields, rest) =>
            (.object (Fields.ofList fields), rest)
    | cs => d.readScalar? cs

/-- The items of an array up to its closing bracket. -/
def readItems? (d : Dialect) : Nat → Option Nat → List Char → Option (List Json × List Char)
  | 0, _, _ => none
  | steps + 1, depth, cs =>
    (readValue? d steps depth cs).bind fun (item, rest) =>
      match d.skipBlanks rest with
      | ']' :: rest => some ([item], rest)
      | ',' :: rest =>
        match d.skipBlanks rest with
        | ']' :: rest => if d.allowsTrailingComma then some ([item], rest) else none
        | rest => (readItems? d steps depth rest).map fun (items, rest) => (item :: items, rest)
      | _ => none

/-- The fields of an object up to its closing bracket, in the order in which they are
written. -/
def readFields? (d : Dialect) :
    Nat → Option Nat → List Char → Option (List (String × Json) × List Char)
  | 0, _, _ => none
  | steps + 1, depth, cs =>
    (d.readName? (d.skipBlanks cs)).bind fun (name, rest) =>
      match d.skipBlanks rest with
      | ':' :: rest =>
        (readValue? d steps depth rest).bind fun (value, rest) =>
          match d.skipBlanks rest with
          | '}' :: rest => some ([(name, value)], rest)
          | ',' :: rest =>
            match d.skipBlanks rest with
            | '}' :: rest => if d.allowsTrailingComma then some ([(name, value)], rest) else none
            | rest =>
              (readFields? d steps depth rest).map fun (fields, rest) =>
                ((name, value) :: fields, rest)
          | _ => none
      | _ => none

end

/-- The value that a whole text stands for, blanks around it allowed. -/
def read? (d : Dialect) (cs : List Char) : Option Json :=
  (d.readValue? (2 * cs.length + 2) d.maxDepth cs).bind fun (value, rest) =>
    if (d.skipBlanks rest).isEmpty then some value else none

end Dialect

end Reshape
