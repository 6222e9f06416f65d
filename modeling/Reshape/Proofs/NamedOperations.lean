import Mathlib.Data.Set.Insert
import Reshape.Proofs.Composition
import Reshape.Proofs.Mirroring

/-!
# The operations that are named

An expression looks into its registry only at the names in front of its stages.  The
names of other operations may stand in it as arguments or as its selector: these are
read as literals or paths, and never looked up.  Callbacks are looked up by calls alone.
So registrations under other names change no result, whether they are made in one go or
over many steps, and whether or not they replace what was registered before.

Main results:

- Definition `operationNames`: the names that an expression looks up.
- Theorem `Registry.agreeOn_extend`: registrations keep the operations under other names.
- Theorem `evaluate_eq_of_agree`: an expression depends on the operations that it names.
- Theorem `Transformer.transform_extend`: so does a template without calls.
-/

namespace Reshape

/-! ## Registries that agree -/

/-- The name under which an operation is registered.  A callback leaves the operations
alone, also those of its own name. -/
def Registration.operationName? : Registration → Option String
  | .operation name _ => some name
  | .maybe name _ => some name
  | .callback _ _ => none

namespace Registry

/-- Two registries with the same operations under some names, or with none in both. -/
def AgreeOn (names : Set String) (r r' : Registry) : Prop :=
  ∀ name ∈ names, r.operation? name = r'.operation? name

section Agree

variable {names : Set String} {r r' r'' : Registry}

/-- A registry agrees with itself. -/
theorem AgreeOn.refl (names : Set String) (r : Registry) : r.AgreeOn names r :=
  fun _ _ => rfl

/-- Registries that agree with a third one agree. -/
theorem AgreeOn.trans (h : AgreeOn names r r') (h' : AgreeOn names r' r'') :
    AgreeOn names r r'' :=
  fun name hname => (h name hname).trans (h' name hname)

/-- A registration keeps the operations under all names but its own. -/
theorem agreeOn_add (r : Registry) {registration : Registration}
    (h : ∀ name, registration.operationName? = some name → name ∉ names) :
    AgreeOn names r (r.add registration) := by
  intro name hname
  have hother : ∀ own, registration.operationName? = some own → own ≠ name := by
    intro own hown heq
    exact h own hown (heq ▸ hname)
  cases registration with
  | operation own operation =>
    rw [add, operation?_register, if_neg (hother own rfl)]
  | maybe own operation =>
    rw [add, registerMaybe, operation?_register, if_neg (hother own rfl)]
  | callback own callback => rw [add, operation?_registerCallback]

/-- Registrations one after the other keep the operations under all names but their
own. -/
theorem agreeOn_extend (r : Registry) {registrations : List Registration}
    (h : ∀ registration ∈ registrations, ∀ name,
      registration.operationName? = some name → name ∉ names) :
    AgreeOn names r (r.extend registrations) := by
  induction registrations generalizing r with
  | nil => exact .refl names r
  | cons registration registrations ih =>
    obtain ⟨hfirst, hrest⟩ := List.forall_mem_cons.mp h
    exact (r.agreeOn_add hfirst).trans (ih (r.add registration) hrest)

end Agree

end Registry

/-! ## Expressions -/

/-- The names that an expression looks up: the first tokens of the segments behind the
first one. -/
def operationNames (text : String) : List String :=
  match Segment.scan text with
  | .ok (_ :: stages) => stages.filterMap fun stage => stage.head?.map Token.text
  | _ => []

section Expressions

variable {names : Set String} {r r' : Registry} (h : Registry.AgreeOn names r r')

include h

/-- An operation by name is the same in registries that agree on the name. -/
theorem applyOperation_eq_of_agree {name : String} (hname : name ∈ names) (value : Json)
    (arguments : List Json) (location : String) :
    applyOperation r value name arguments location =
      applyOperation r' value name arguments location := by
  unfold applyOperation
  rw [h name hname]

/-- Stages are the same in registries that agree on their names. -/
theorem runStages_eq_of_agree {stages : List Segment}
    (hstages : ∀ stage ∈ stages, ∀ token ∈ stage.head?, token.text ∈ names)
    (source : Json) (location : String) (prior : Segment) (value : Json) :
    runStages r source location prior value stages =
      runStages r' source location prior value stages := by
  induction stages generalizing prior value with
  | nil => rfl
  | cons stage stages ih =>
    obtain ⟨hstage, hrest⟩ := List.forall_mem_cons.mp hstages
    cases stage with
    | nil => rfl
    | cons name arguments =>
      rw [runStages, runStages, applyOperation_eq_of_agree h (hstage name rfl)]
      congr 1
      funext value
      exact ih hrest (name :: arguments) value

/-- An expression is the same in registries that agree on the names that it looks up. -/
theorem evaluate_eq_of_agree {text : String} (hnames : ∀ name ∈ operationNames text, name ∈ names)
    (source : Json) (location : String) :
    evaluate r source text location = evaluate r' source text location := by
  by_cases hne : text = ""
  · subst hne
    rfl
  · rcases Segment.scan_cases text with ⟨fault, hscan⟩ | ⟨selector, stages, hscan⟩
    · rw [evaluate_of_error r source location hscan, evaluate_of_error r' source location hscan]
    · rw [evaluate_of_segments r source location hne hscan,
        evaluate_of_segments r' source location hne hscan]
      apply runStages_eq_of_agree h
      intro stage hstage token htoken
      apply hnames
      rw [operationNames, hscan]
      exact List.mem_filterMap.mpr ⟨stage, hstage, Option.map_eq_some_iff.mpr ⟨token, htoken, rfl⟩⟩

end Expressions

/-! ## Templates -/

namespace Transformer

/-- A template without calls has the same result when operations are registered under
names that its expressions do not look up, and callbacks under any names: the same value,
or the same error.  The names may be those of arguments and selectors. -/
theorem transform_extend (r : Registry) {registrations : List Registration} {names : Set String}
    (hregistered : ∀ registration ∈ registrations, ∀ name,
      registration.operationName? = some name → name ∉ names)
    {template : Template} (hplain : template.IsPlain)
    (hnamed : ∀ text, template.HasExpression text → ∀ name ∈ operationNames text, name ∈ names)
    (mode : Mode) (source : Json) (location : String) :
    transform ⟨r.extend registrations, mode⟩ source template location =
      transform ⟨r, mode⟩ source template location := by
  have hagree : Registry.AgreeOn names r (r.extend registrations) := r.agreeOn_extend hregistered
  rw [transform_eq_walk, transform_eq_walk]
  apply walk_congr
  intro trail node text hnode htext
  cases node with
  | mapping | sequence | literal => cases htext
  | call text function parameters => exact (hplain trail text function parameters hnode).elim
  | expression text =>
    rw [walk, walk]
    exact (evaluate_eq_of_agree hagree (hnamed text ⟨trail, _, hnode, rfl⟩) source _).symm

/-- A template that adds two numbers by name and takes the first character of a text. -/
def totalTemplate : Template :=
  .ofJson (.object [("mark", .string "name $ 0"), ("sum", .array [.string "net $ + upper"])])

/-- Registrations that fail: under the names of a selector and of an argument, and of a
callback under the name of an operation. -/
def intrusions : List Registration :=
  [.operation "name" fun _ _ => throw (.invalidJson ""),
    .maybe "upper" fun _ _ => throw (.invalidJson ""),
    .callback "+" fun _ _ => throw (.invalidJson "")]

/-- What is registered under the names of selectors, arguments and callbacks changes
nothing. -/
theorem transform_extend_intrusions :
    (∀ registration ∈ intrusions, ∀ name, registration.operationName? = some name →
      name ∉ ({"0", "+"} : Set String)) ∧
    totalTemplate.IsPlain ∧
    (∀ text, totalTemplate.HasExpression text → ∀ name ∈ operationNames text,
      name ∈ ({"0", "+"} : Set String)) ∧
    transform ⟨Registry.standard.extend intrusions, .oneToOne⟩
        (.object [("name", .string "bolt"), ("net", .ofInt 80), ("upper", .ofInt 20)])
        totalTemplate ".out" =
      transform ⟨.standard, .oneToOne⟩
        (.object [("name", .string "bolt"), ("net", .ofInt 80), ("upper", .ofInt 20)])
        totalTemplate ".out" := by
  have hregistered : ∀ registration ∈ intrusions, ∀ name,
      registration.operationName? = some name → name ∉ ({"0", "+"} : Set String) := by
    simp [intrusions, Registration.operationName?]
  have hplain : totalTemplate.IsPlain := Template.isPlain_ofJson _
  have hmark : operationNames "name $ 0" = ["0"] := by decide +kernel
  have hsum : operationNames "net $ + upper" = ["+"] := by decide +kernel
  have hnamed : ∀ text, totalTemplate.HasExpression text → ∀ name ∈ operationNames text,
      name ∈ ({"0", "+"} : Set String) := by
    intro text htext
    have htexts : text = "name $ 0" ∨ text = "net $ + upper" := by
      simpa [totalTemplate, Template.ofJson, Template.ofJsonFields, Template.ofJsonItems,
        eq_comm] using htext
    rcases htexts with rfl | rfl
    · simp [hmark]
    · simp [hsum]
  exact ⟨hregistered, hplain, hnamed,
    transform_extend .standard hregistered hplain hnamed .oneToOne _ ".out"⟩

end Transformer

end Reshape
