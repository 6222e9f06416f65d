import Reshape.Pipeline

/-!
# Transformers

A transformer walks a template against a source.  Mappings and sequences are rebuilt
level by level, expressions are evaluated and literals copied; the place of each part
is the place of its container with its name or index added.

A callback may ask for further transformations.  Each of them takes one step of a
budget; the budget that `transform` starts from is never used up when callbacks read
their templates from the parameters of their calls.

Main results:

- Definition `Transformer.walk`: one pass over a template.
- Definition `Transformer.transform`: the result of a template on a source.
- Definition `Transformer.apply`: the result on a document, record by record.
-/

namespace Reshape

/-! ## Modes -/

/-- What becomes of a document that is an array: it is one source, or a batch of
records. -/
inductive Mode where
  | oneToOne
  | manyToMany
deriving DecidableEq

namespace Mode

/-- The name of a mode. -/
def name : Mode → String
  | oneToOne => "One2One"
  | manyToMany => "Many2Many"

/-- The mode with a name. -/
def named? (name : String) : Option Mode :=
  [oneToOne, manyToMany].find? fun mode => mode.name == name

/-- The mode that a value stands for: its name, alone or with null as its content. -/
def ofJson? : Json → Option Mode
  | .string name => named? name
  | .object [(name, .null)] => named? name
  | _ => none

/-- The value that stands for a mode. -/
def toJson (mode : Mode) : Json :=
  .string mode.name

end Mode

/-! ## One pass over a template -/

/-- A registry and a mode. -/
structure Transformer where
  registry : Registry
  mode : Mode

/-- The place of a part of a container. -/
def placeIn (location part : String) : String :=
  location ++ "." ++ part

namespace Transformer

mutual

/-- Walks a template at a place.  The result of a call is what its callback makes of the
value of its expression. -/
def walk (r : Registry) (engine : Engine) (source : Json) (location : String) :
    Template → Run Json
  | .mapping fields => do return .object (← walkFields r engine source location fields)
  | .sequence items => do return .array (← walkItems r engine source location 0 items)
  | .expression text => Reshape.evaluate r source text location
  | .call text function parameters =>
    match r.callback? function with
    | none => throw (.unknownFunction function location)
    | some callback => do
      let value ← Reshape.evaluate r source text location
      (callback value ⟨parameters, location, engine⟩).mapError (·.located location)
  | .literal value => pure value

/-- Walks fields, each at the place of its name. -/
def walkFields (r : Registry) (engine : Engine) (source : Json) (location : String) :
    List (String × Template) → Run (List (String × Json))
  | [] => pure []
  | (name, template) :: fields => do
    let value ← walk r engine source (placeIn location name) template
    return (name, value) :: (← walkFields r engine source location fields)

/-- Walks items, each at the place of its index. -/
def walkItems (r : Registry) (engine : Engine) (source : Json) (location : String) (index : Nat) :
    List Template → Run (List Json)
  | [] => pure []
  | template :: items => do
    let value ← walk r engine source (placeIn location (toString index)) template
    return value :: (← walkItems r engine source location (index + 1) items)

end

/-! ## Transformations -/

/-- The result on a document, given the result on a source: in the mode for batches an
array is transformed record by record. -/
def applyBy (transform : Json → Template → String → Run Json) (mode : Mode)
    (template : Template) : Json → Run Json
  | .array records =>
    match mode with
    | .manyToMany => do
      return .array (← records.mapM fun record => transform record template "")
    | .oneToOne => transform (.array records) template ""
  | source => transform source template ""

/-- What callbacks can ask of a transformer, given how it transforms for them. -/
def engine (t : Transformer) (transform : Json → Template → String → Run Json) : Engine where
  evaluate source expression := Reshape.evaluate t.registry source expression ""
  transform := transform
  apply template source := applyBy transform t.mode template source

/-- The result of a template on a source within a budget of nested transformations. -/
def transformWithin (t : Transformer) : Nat → Json → Template → String → Run Json
  | 0, _, _, location => throw (.nestedTooDeep location)
  | budget + 1, source, template, location =>
    walk t.registry (t.engine (t.transformWithin budget)) source location template

/-- The result of a template on a source, errors being placed from `location` on. -/
def transform (t : Transformer) (source : Json) (template : Template) (location : String) :
    Run Json :=
  t.transformWithin (template.callDepth + 1) source template location

/-- The value of an expression on a source. -/
def evaluate (t : Transformer) (source : Json) (expression : String) : Run Json :=
  Reshape.evaluate t.registry source expression ""

/-- The result of a template on a document. -/
def apply (t : Transformer) (template : Template) (source : Json) : Run Json :=
  applyBy t.transform t.mode template source

/-- The result of a template on a JSON text. -/
def applyText (t : Transformer) (template : Template) (text : String) : Run Json :=
  match Json.ofDocument? text with
  | some source => t.apply template source
  | none => throw (.invalidJson "")

/-! ## Description -/

/-- A list of quoted names. -/
def describeNames (names : List String) : List Char :=
  '[' :: (", ".toList).intercalate (names.map fun name => Text.quote name.toList) ++ [']']

/-- The description of a transformer: the names in its registry and its mode. -/
def describe (t : Transformer) : String :=
  String.ofList <|
    "Transformer ".toList ++ '{' :: " registry: Registry ".toList ++
      '{' :: " functions: ".toList ++ describeNames t.registry.names ++
      ", callbacks: ".toList ++ describeNames (Fields.names t.registry.callbacks) ++
      [' ', '}'] ++ ", mode: ".toList ++ t.mode.name.toList ++ [' ', '}']

end Transformer

end Reshape
