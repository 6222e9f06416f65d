import Reshape.Proofs.Composition
import Reshape.Proofs.PathLevels
import Reshape.Proofs.StandardRegistry

/-!
# Composition of paths

A point between two paths puts the levels of the second behind those of the first, so
such a path leads where the second one leads from the value of the first.  Nothing is
lost where a part is malformed, leads nowhere or leads to null: each of these gives null,
and no path leads out of null.

In an expression the point can be replaced by a stage of its own, a selector.  No name in
the catalog starts with a point, so what stands behind the separator is taken as a path.

Main results:

- Theorem `Path.parse_append_point`: the levels of two paths around a point.
- Theorem `Json.extract_append_point`: the value at two paths around a point.
- Theorem `evaluate_append_selector`: an expression with a selector behind it.
- Theorem `paths_compose`: paths compose, in values and in expressions.
-/

namespace Reshape

/-! ## Levels behind a point -/

/-- A path with a point in it has the levels in front of the point and those behind it.
It is malformed when either part is, by the fault of the first one that is. -/
theorem Path.parse_append_point (p q : String) :
    parse (p ++ "." ++ q) = (do
      let first ← parse p
      let rest ← parse q
      return first ++ rest) := by
  have htext : (p ++ "." ++ q).toList = p.toList ++ '.' :: q.toList := by simp
  unfold parse
  simp only [Text.splitOn_singleton]
  rw [htext, List.splitOn_append_cons_self, List.flatMap_append, List.mapM_append]

namespace Json

/-- Levels behind others lead on from the value that those lead to. -/
theorem follow?_append (v : Json) (first rest : List Level) :
    v.follow? (first ++ rest) = (v.follow? first).bind (·.follow? rest) := by
  induction first generalizing v with
  | nil => rfl
  | cons level first ih =>
    simp only [List.cons_append, follow?, ih, Option.bind_assoc]

/-- A malformed path leads to null. -/
theorem extract_of_parse_error {path : String} {fault : PathFault}
    (h : Path.parse path = .error fault) (v : Json) : v.extract path = null := by
  unfold extract
  by_cases hempty : path = ""
  · subst hempty
    cases h
  · have hne : path.isEmpty = false := by simpa using hempty
    rw [hne, h]
    rfl

/-- The value at two paths around a point is the value at the second path in the value at
the first one. -/
theorem extract_append_point (v : Json) (p q : String) :
    v.extract (p ++ "." ++ q) = (v.extract p).extract q := by
  have hboth := Path.parse_append_point p q
  cases hfirst : Path.parse p with
  | error fault =>
    rw [hfirst] at hboth
    rw [extract_of_parse_error hboth, extract_of_parse_error hfirst, extract_null]
  | ok first =>
    rw [hfirst] at hboth
    cases hrest : Path.parse q with
    | error fault =>
      rw [hrest] at hboth
      rw [extract_of_parse_error hboth, extract_of_parse_error hrest]
    | ok rest =>
      rw [hrest] at hboth
      rw [extract_of_parse hboth, extract_of_parse hfirst, follow?_append]
      cases v.follow? first with
      | none => exact (extract_null q).symm
      | some w => exact (extract_of_parse hrest w).symm

end Json

/-! ## Selectors -/

/-- A text that starts with a point is no index. -/
theorem indexNamed?_selector (path : String) : indexNamed? ("." ++ path) = none := by
  have htext : ("." ++ path).toList = '.' :: path.toList := by simp
  unfold indexNamed?
  rw [htext]
  simp

/-- A selector applies its path to the running value, unless an operation has its name. -/
theorem applyOperation_selector {r : Registry} {path : String}
    (h : r.operation? ("." ++ path) = none) (value : Json) (location : String) :
    applyOperation r value ("." ++ path) [] location = pure (value.extract path) := by
  have htext : ("." ++ path).toList = '.' :: path.toList := by simp
  unfold applyOperation
  rw [h, indexNamed?_selector, htext]
  simp

/-- No operation of the catalog, or of the standard registry, is named like a selector. -/
theorem Registry.operation?_selector {r : Registry} (h : r ∈ [catalog, standard])
    (path : String) : r.operation? ("." ++ path) = none := by
  have hheads : ∀ name ∈ "enumFileChange" :: Catalog.entries.map Catalog.Entry.name,
      name.toList.head? ≠ some '.' := by decide +kernel
  have hhead : ("." ++ path).toList.head? = some '.' := by simp
  obtain ⟨hfile, hnames⟩ : "." ++ path ≠ "enumFileChange" ∧
      "." ++ path ∉ Catalog.entries.map Catalog.Entry.name := by
    rw [← not_or, ← List.mem_cons]
    exact fun hmem => hheads _ hmem hhead
  rcases List.mem_pair.mp h with rfl | rfl
  · exact operation?_catalog_eq_none hnames
  · exact operation?_standard_eq_none hnames hfile

/-! ## Paths in expressions -/

/-- A text of word characters is one token, and not the separator. -/
theorem isToken_of_word {text : String} (hne : text ≠ "")
    (hword : ∀ c ∈ text.toList, Token.isWordChar c) : IsToken text ∧ text ≠ "$" := by
  refine ⟨⟨.word text.toList, ⟨by simpa using hne, hword⟩, Token.text_word text⟩, ?_⟩
  intro heq
  subst heq
  have hdollar : Token.isWordChar '$' := hword '$' (by simp)
  exact absurd hdollar (by decide)

/-- A word other than a star selects the value at the path that it is. -/
theorem evaluate_of_word {text : String} (hne : text ≠ "") (hstar : text ≠ "*")
    (hword : ∀ c ∈ text.toList, Token.isWordChar c) (r : Registry) (source : Json)
    (location : String) :
    evaluate r source text location = pure (source.extract text) := by
  obtain ⟨htoken, hdollar⟩ := isToken_of_word hne hword
  exact evaluate_of_isToken hdollar hstar htoken r source location

/-- An expression with a selector of word characters behind it selects from the value of
the expression. -/
theorem evaluate_append_selector {r : Registry} {expression path : String} {tokens : List Token}
    (hname : r.operation? ("." ++ path) = none) (hne : expression ≠ "")
    (htokens : Token.scan expression.toList = .ok tokens)
    (hpath : ∀ c ∈ path.toList, Token.isWordChar c) (source : Json) (location : String) :
    evaluate r source (expression ++ " $ ." ++ path) location = (do
      let value ← evaluate r source expression location
      return value.extract path) := by
  have hpoint : Token.isWordChar '.' := by decide
  have hselector : ∀ c ∈ ("." ++ path).toList, Token.isWordChar c := by
    simpa [hpoint] using hpath
  obtain ⟨⟨t, ht, htext⟩, hdollar⟩ := isToken_of_word (by simp) hselector
  have hseparator : Segment.separator ∉ [t] := by
    apply Segment.separator_notMem_singleton
    rwa [htext]
  have hstage : expression ++ " $ ." ++ path = expression ++ " $ " ++ ("." ++ path) := by
    simp only [String.append_assoc]
    rfl
  rw [hstage, evaluate_append_segment r source location hne htokens
    (Token.scan_of_text_eq ht htext) hseparator]
  simp only [runStages, htext, List.map_nil, applyOperation_selector hname, bind_pure]

/-- Paths compose.  In every value a path with a point in it leads where the path behind
the point leads from the value at the path in front of it; and in an expression of word
characters the point can be replaced by a stage that selects the path behind it. -/
theorem paths_compose :
    (∀ (v : Json) (p q : String), v.extract (p ++ "." ++ q) = (v.extract p).extract q) ∧
    ∀ r ∈ [Registry.catalog, Registry.standard], ∀ (source : Json) (location p q : String),
      p ≠ "" → p ≠ "*" → (∀ c ∈ p.toList, Token.isWordChar c) →
      (∀ c ∈ q.toList, Token.isWordChar c) →
      evaluate r source (p ++ "." ++ q) location =
        evaluate r source (p ++ " $ ." ++ q) location := by
  refine ⟨Json.extract_append_point, ?_⟩
  intro r hr source location p q hne hstar hp hq
  have hpoint : Token.isWordChar '.' := by decide +kernel
  have hboth : ∀ c ∈ (p ++ "." ++ q).toList, Token.isWordChar c := by
    simpa [hpoint, or_imp, forall_and] using And.intro hp hq
  have hboth_star : p ++ "." ++ q ≠ "*" := by
    intro heq
    have hmem : '.' ∈ (p ++ "." ++ q).toList := by simp
    rw [heq] at hmem
    exact absurd hmem (by decide)
  obtain ⟨⟨t, ht, htext⟩, -⟩ := isToken_of_word hne hp
  calc evaluate r source (p ++ "." ++ q) location
      = pure (source.extract (p ++ "." ++ q)) :=
        evaluate_of_word (by simp) hboth_star hboth r source location
    _ = pure ((source.extract p).extract q) := by rw [Json.extract_append_point]
    _ = (do
          let value ← evaluate r source p location
          return value.extract q) := by
        rw [evaluate_of_word hne hstar hp, pure_bind]
    _ = evaluate r source (p ++ " $ ." ++ q) location := by
        rw [evaluate_append_selector (Registry.operation?_selector hr q) hne
          (Token.scan_of_text_eq ht htext) hq]

/-- A source with keys that look like an index and a star. -/
def oddKeys : Json :=
  .object [("rows", .object [("-0", .object [("*", .ofInt 7)])])]

/-- Two paths around a point, the first with an empty piece at its end. -/
theorem paths_compose_oddKeys :
    Registry.catalog ∈ [Registry.catalog, Registry.standard] ∧
    "rows." ≠ "" ∧ "rows." ≠ "*" ∧ (∀ c ∈ "rows.".toList, Token.isWordChar c) ∧
    (∀ c ∈ "-0.*".toList, Token.isWordChar c) ∧
    oddKeys.extract ("rows." ++ "." ++ "-0.*") = .ofInt 7 ∧
    evaluate .catalog oddKeys ("rows." ++ "." ++ "-0.*") ".out" =
      evaluate .catalog oddKeys ("rows." ++ " $ ." ++ "-0.*") ".out" := by
  have hcatalog : Registry.catalog ∈ [Registry.catalog, Registry.standard] := by simp
  have hfirst : ∀ c ∈ "rows.".toList, Token.isWordChar c := List.all_eq_true.mp (by decide +kernel)
  have hrest : ∀ c ∈ "-0.*".toList, Token.isWordChar c := List.all_eq_true.mp (by decide +kernel)
  have hrun := paths_compose.2 .catalog hcatalog oddKeys ".out" "rows." "-0.*" (by decide)
    (by decide) hfirst hrest
  exact ⟨hcatalog, by decide, by decide, hfirst, hrest, by decide +kernel, hrun⟩

end Reshape
