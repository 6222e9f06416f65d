import Reshape.Proofs.Composition
import Reshape.Proofs.StandardRegistry
import Reshape.Proofs.TemplateNodes

/-!
# What is read of a source

An expression looks at its source in two ways only: it starts from what its selector
leads to, and it resolves arguments that are no literals.  So two sources with the same
values at these paths cannot be told apart by it, and neither by a template made of such
expressions; callbacks see the value of their call and not the source.  The exceptions are
expressions that start from the whole source.

Main results:

- Definition `readTokens`: the tokens by which an expression reads its source.
- Theorem `evaluate_eq_of_reads`: an expression depends on what these tokens lead to.
- Theorem `Transformer.transform_eq_of_reads`: so does a template on those of its
  expressions.
-/

namespace Reshape

/-! ## Expressions -/

/-- The tokens by which an expression reads its source: the selector, and the arguments
that are no literals. -/
def readTokens (text : String) : List Token :=
  match Segment.scan text with
  | .ok (selector :: stages) =>
    selector.take 1 ++ stages.flatMap fun stage =>
      stage.tail.filter fun token => (Literal.parse? token.text).isNone
  | _ => []

/-- An expression starts from the whole source when nothing, or a star, stands in front of
its first separator. -/
def SelectsSource (text : String) : Prop :=
  ∃ selector stages, Segment.scan text = .ok (selector :: stages) ∧
    ∀ token ∈ selector.head?, token.text = "*"

section Reads

variable {source source' : Json}

/-- An argument is a literal, or depends on what it leads to. -/
theorem resolveArgument_eq_of_reads {text : String}
    (h : Literal.parse? text = none → source.extract text = source'.extract text) :
    resolveArgument text source = resolveArgument text source' := by
  unfold resolveArgument
  cases hparse : Literal.parse? text with
  | none => exact h hparse
  | some value => rfl

/-- Stages depend on what their arguments lead to. -/
theorem runStages_eq_of_reads (r : Registry) (location : String) {stages : List Segment}
    (h : ∀ stage ∈ stages, ∀ token ∈ stage.tail, Literal.parse? token.text = none →
      source.extract token.text = source'.extract token.text)
    (prior : Segment) (value : Json) :
    runStages r source location prior value stages =
      runStages r source' location prior value stages := by
  induction stages generalizing prior value with
  | nil => rfl
  | cons stage stages ih =>
    rcases List.forall_mem_cons.mp h with ⟨hstage, hstages⟩
    cases stage with
    | nil => rfl
    | cons name arguments =>
      have harguments : (arguments.map fun token => resolveArgument token.text source) =
          arguments.map fun token => resolveArgument token.text source' :=
        List.map_congr_left fun token htoken => resolveArgument_eq_of_reads (hstage token htoken)
      rw [runStages, runStages, harguments]
      congr 1
      funext value
      exact ih hstages _ value

/-- An expression that does not start from the whole source depends on what the tokens
lead to by which it reads. -/
theorem evaluate_eq_of_reads (r : Registry) {text : String}
    (hselector : text ≠ "" → ¬SelectsSource text)
    (hreads : ∀ token ∈ readTokens text, source.extract token.text = source'.extract token.text)
    (location : String) :
    evaluate r source text location = evaluate r source' text location := by
  by_cases hne : text = ""
  · subst hne
    rfl
  · rcases Segment.scan_cases text with ⟨fault, hscan⟩ | ⟨selector, stages, hscan⟩
    · rw [evaluate_of_error r source location hscan, evaluate_of_error r source' location hscan]
    · have htokens : readTokens text = selector.take 1 ++ stages.flatMap fun stage =>
          stage.tail.filter fun token => (Literal.parse? token.text).isNone := by
        rw [readTokens, hscan]
      rw [htokens, List.forall_mem_append] at hreads
      rcases hreads with ⟨hfirst, harguments⟩
      have hstart : startValue source selector = startValue source' selector := by
        cases selector with
        | nil => exact (hselector hne ⟨[], stages, hscan, by simp⟩).elim
        | cons token tokens =>
          have hstar : token.text ≠ "*" := by
            intro hstar
            exact hselector hne ⟨token :: tokens, stages, hscan, by simpa using hstar⟩
          rw [startValue, startValue, if_neg hstar, if_neg hstar]
          exact hfirst token (by simp)
      rw [evaluate_of_segments r source location hne hscan,
        evaluate_of_segments r source' location hne hscan, hstart]
      apply runStages_eq_of_reads
      intro stage hstage token htoken hparse
      apply harguments
      rw [List.mem_flatMap]
      exact ⟨stage, hstage, List.mem_filter.mpr ⟨htoken, by rw [hparse]; rfl⟩⟩

end Reads

/-! ## Templates -/

namespace Transformer

/-- A walk depends on what the tokens lead to by which the expressions of its template
read. -/
theorem walk_eq_of_reads (r : Registry) (engine : Engine) {source source' : Json}
    {template : Template}
    (hselector : ∀ text, template.HasExpression text → text ≠ "" → ¬SelectsSource text)
    (hreads : ∀ text, template.HasExpression text → ∀ token ∈ readTokens text,
      source.extract token.text = source'.extract token.text)
    (location : String) :
    walk r engine source location template = walk r engine source' location template := by
  apply walk_congr
  intro trail node text hnode htext
  have hmem : template.HasExpression text := ⟨trail, node, hnode, htext⟩
  have hevaluate : ∀ place, Reshape.evaluate r source text place =
      Reshape.evaluate r source' text place :=
    evaluate_eq_of_reads r (hselector text hmem) (hreads text hmem)
  cases node with
  | mapping | sequence | literal => cases htext
  | expression own =>
    obtain rfl : own = text := Option.some.inj htext
    rw [walk, walk, hevaluate]
  | call own function parameters =>
    obtain rfl : own = text := Option.some.inj htext
    rw [walk, walk, hevaluate]

/-- A template whose expressions do not start from the whole source has the same result on
sources that agree on what the tokens lead to by which its expressions read: the same
value, or the same error.  So it has under everything else that solves the recursion in which
callbacks transform again without a budget, with whatever templates. -/
theorem transform_eq_of_reads (t : Transformer) {template : Template} {source source' : Json}
    (hselector : ∀ text, template.HasExpression text → text ≠ "" → ¬SelectsSource text)
    (hreads : ∀ text, template.HasExpression text → ∀ token ∈ readTokens text,
      source.extract token.text = source'.extract token.text)
    (location : String) :
    t.transform source template location = t.transform source' template location ∧
    ∀ solution : Json → Template → String → Run Json,
      (∀ source template location, solution source template location =
        walk t.registry (t.engine solution) source location template) →
      solution source template location = solution source' template location := by
  constructor
  · rw [transform_eq_walk, transform_eq_walk]
    exact walk_eq_of_reads t.registry _ hselector hreads location
  · intro solution hsolution
    rw [hsolution, hsolution]
    exact walk_eq_of_reads t.registry _ hselector hreads location

/-- A template that adds two numbers of its source and transforms a list of records. -/
def invoiceTemplate : Template :=
  .mapping [("lines", .sequence [.call "order.lines" "list"
    [("template", .object [("all", .string "*")])]]), ("total", .expression "order.net $ + tax")]

/-- A source with what the template reads, and a note beside it. -/
def invoiceWith (note : Json) : Json :=
  .object [("note", note), ("order", .object [("lines", .array [.object [("id", .ofInt 7)]]),
    ("net", .ofInt 80), ("note", note)]), ("tax", .ofInt 20)]

/-- Sources that differ in what the template does not read. -/
theorem transform_eq_of_reads_invoice :
    (∀ text, invoiceTemplate.HasExpression text → text ≠ "" → ¬SelectsSource text) ∧
    (∀ text, invoiceTemplate.HasExpression text → ∀ token ∈ readTokens text,
      (invoiceWith (.string "paid")).extract token.text =
        (invoiceWith (.array [.null])).extract token.text) ∧
    invoiceWith (.string "paid") ≠ invoiceWith (.array [.null]) ∧
    transform ⟨.standard, .manyToMany⟩ (invoiceWith (.string "paid")) invoiceTemplate ".out" =
      transform ⟨.standard, .manyToMany⟩ (invoiceWith (.array [.null])) invoiceTemplate ".out" := by
  have htexts : ∀ text, invoiceTemplate.HasExpression text →
      text = "order.lines" ∨ text = "order.net $ + tax" := by
    intro text htext
    simpa [invoiceTemplate, eq_comm] using htext
  have hlines : Segment.scan "order.lines" = .ok [[.word "order.lines".toList]] := by
    decide +kernel
  have htotal : Segment.scan "order.net $ + tax" =
      .ok [[.word "order.net".toList], [.word "+".toList, .word "tax".toList]] := by
    decide +kernel
  have hselector : ∀ text, invoiceTemplate.HasExpression text → text ≠ "" →
      ¬SelectsSource text := by
    rintro text htext - ⟨selector, stages, hscan, hstar⟩
    rcases htexts text htext with rfl | rfl
    · rw [hlines] at hscan
      cases hscan
      exact absurd (hstar _ rfl) (by decide +kernel)
    · rw [htotal] at hscan
      cases hscan
      exact absurd (hstar _ rfl) (by decide +kernel)
  have hreads : ∀ text, invoiceTemplate.HasExpression text → ∀ token ∈ readTokens text,
      (invoiceWith (.string "paid")).extract token.text =
        (invoiceWith (.array [.null])).extract token.text := by
    intro text htext
    rcases htexts text htext with rfl | rfl
    · decide +kernel
    · decide +kernel
  exact ⟨hselector, hreads, by decide +kernel,
    (transform_eq_of_reads ⟨.standard, .manyToMany⟩ hselector hreads ".out").1⟩

end Transformer

end Reshape
