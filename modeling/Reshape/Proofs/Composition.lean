import Reshape.Catalog
import Reshape.Proofs.Layout

/-!
# Composition of pipelines

A pipeline with one more stage runs the pipeline and then the stage.  The stage is read
off the text alone: its name and arguments are the tokens behind the last separator, and
its arguments are taken from the source, not from the running value.

Main results:

- Theorem `evaluate_of_segments`: an expression that is not empty runs its segments.
- Theorem `evaluate_of_error`: an expression that is not scanned is malformed.
- Theorem `runStages_append`: more stages run on the value of the earlier ones.
- Theorem `evaluate_append_stage`: an expression with one more stage behind it.
-/

namespace Reshape

/-! ## Texts behind a separator -/

namespace Token

/-- A text with a separator in front is scanned behind the separator. -/
theorem scan_separator (rest : List Char) :
    scan ('$' :: rest) = (scan rest).map (Segment.separator :: ·) := by
  have hwell : Segment.separator.WellFormed := by decide
  exact scan_token (t := Segment.separator) hwell (by simp [Segment.separator, isWord])

/-- Two texts around a separator with blanks are scanned one by one. -/
theorem scan_append_separated {front : List Char} {ts : List Token} (h : scan front = .ok ts)
    (rest : List Char) :
    scan (front ++ ' ' :: '$' :: ' ' :: rest) =
      (scan rest).map (ts ++ Segment.separator :: ·) := by
  rcases exists_layout_of_scan h with ⟨l, hl, rfl, rfl⟩
  have hblank : Text.isBlank ' ' := by decide
  have hapart : StartsApart (' ' :: '$' :: ' ' :: rest) := by
    intro c hc
    obtain rfl : ' ' = c := by simpa using hc
    exact isWordChar_eq_false_of_isBlank hblank
  rw [Layout.scan_text_append hl hapart, scan_blank _ hblank, scan_separator,
    scan_blank _ hblank]
  cases scan rest <;> rfl

end Token

/-- The segment of the expression that is a star alone. -/
theorem Segment.scan_star : Segment.scan "*" = .ok [[.word ['*']]] := by
  have hlayout : Layout.WellFormed ⟨[], [(.word ['*'], [])]⟩ := by decide
  have htokens : Token.scan "*".toList = .ok [.word ['*']] := Layout.scan_text hlayout
  rw [Segment.scan, htokens]
  rfl

/-- A text is not scanned, or has a first segment. -/
theorem Segment.scan_cases (text : String) :
    (∃ fault, Segment.scan text = .error fault) ∨
      ∃ selector stages, Segment.scan text = .ok (selector :: stages) := by
  cases htokens : Token.scan text.toList with
  | error fault =>
    left
    exact ⟨fault, by rw [Segment.scan, htokens]; rfl⟩
  | ok tokens =>
    right
    have hne : Segment.ofTokens tokens ≠ [] := by
      rw [Segment.ofTokens_eq_splitOn]
      exact List.splitOn_ne_nil Segment.separator tokens
    rcases List.exists_cons_of_ne_nil hne with ⟨selector, stages, hsegments⟩
    exact ⟨selector, stages, by rw [Segment.scan, htokens, ← hsegments]; rfl⟩

/-! ## Running segments -/

variable (r : Registry) (source : Json) (location : String)

/-- An index takes an element of the running value, whatever the arguments. -/
theorem applyOperation_index {name : String} {index : Int} (hnone : r.operation? name = none)
    (hindex : indexNamed? name = some index) (value : Json) (arguments : List Json) :
    applyOperation r value name arguments location = pure (value.elementAt index) := by
  unfold applyOperation
  rw [hnone, hindex]

/-- An expression that is not empty runs its stages on the value that its first segment
selects.  The expression that is a star alone needs no case of its own. -/
theorem evaluate_of_segments {expression : String} {selector : Segment}
    {stages : List Segment} (hne : expression ≠ "")
    (h : Segment.scan expression = .ok (selector :: stages)) :
    evaluate r source expression location =
      runStages r source location selector (startValue source selector) stages := by
  have hempty : expression.isEmpty = false := by simpa using hne
  unfold evaluate
  rw [hempty]
  by_cases hstar : expression = "*"
  · subst hstar
    rw [Segment.scan_star] at h
    cases h
    simp [startValue, runStages, Token.text, Token.characters]
  · simp [hstar, h]

/-- An expression that is not scanned is malformed. -/
theorem evaluate_of_error {expression : String} {fault : Malformation}
    (h : Segment.scan expression = .error fault) :
    evaluate r source expression location = throw (.malformed fault location) := by
  have hempty : expression.isEmpty = false := by
    rw [Bool.eq_false_iff]
    intro hempty
    obtain rfl : expression = "" := by simpa using hempty
    simp [Segment.scan, Except.map] at h
  have hstar : expression ≠ "*" := by
    rintro rfl
    rw [Segment.scan_star] at h
    contradiction
  unfold evaluate
  rw [hempty, h]
  simp [hstar]

/-- An expression without separators has the value that its first token selects. -/
theorem evaluate_selector {expression : String} {tokens : List Token} (hne : expression ≠ "")
    (htokens : Token.scan expression.toList = .ok tokens)
    (hsep : Segment.separator ∉ tokens) :
    evaluate r source expression location = pure (startValue source tokens) := by
  have hsegments : Segment.scan expression = .ok [tokens] := by
    rw [Segment.scan, htokens]
    simp [Except.map, Segment.ofTokens_eq_splitOn, List.splitOn_eq_singleton hsep]
  rw [evaluate_of_segments r source location hne hsegments]
  rfl

/-- A selector that is one token selects with its whole text. -/
theorem evaluate_of_isToken {text : String} (hne : text ≠ "$") (hstar : text ≠ "*")
    (h : IsToken text) (r : Registry) (source : Json) (location : String) :
    evaluate r source text location = pure (source.extract text) := by
  rcases h with ⟨t, ht, rfl⟩
  have hempty : t.text ≠ "" := by
    rcases Token.exists_head_of_wellFormed ht with ⟨c, cs, hcs, -⟩
    simp [Token.text, hcs]
  rw [evaluate_selector _ _ _ hempty (Token.scan_of_text_eq ht rfl)
    (Segment.separator_notMem_singleton hne), startValue, if_neg hstar]

/-- Stages behind others run on the value of those. -/
theorem runStages_append (prior : Segment) (value : Json) (stages more : List Segment) :
    runStages r source location prior value (stages ++ more) = (do
      let value ← runStages r source location prior value stages
      runStages r source location (stages.getLastD prior) value more) := by
  induction stages generalizing prior value with
  | nil => simp [runStages]
  | cons stage stages ih =>
    cases stage with
    | nil => rfl
    | cons name arguments =>
      rw [List.cons_append, runStages, runStages, bind_assoc]
      congr 1
      funext value
      rw [ih, List.getLastD_cons]

/-! ## One more stage -/

/-- The segments of two texts around a separator are those of the first and those of the
second. -/
theorem Segment.scan_append_separated {expression stage : String} {tokens more : List Token}
    (htokens : Token.scan expression.toList = .ok tokens)
    (hmore : Token.scan stage.toList = .ok more) :
    Segment.scan (expression ++ " $ " ++ stage) =
      .ok (Segment.ofTokens tokens ++ Segment.ofTokens more) := by
  have htext : (expression ++ " $ " ++ stage).toList =
      expression.toList ++ ' ' :: '$' :: ' ' :: stage.toList := by
    simp
  rw [Segment.scan, htext, Token.scan_append_separated htokens, hmore]
  simp only [Except.map, Segment.ofTokens_eq_splitOn]
  rw [List.splitOn_append_cons_self]

/-- An expression with one more segment behind it runs that segment on the value of the
expression. -/
theorem evaluate_append_segment {expression stage : String} {tokens segment : List Token}
    (hne : expression ≠ "") (htokens : Token.scan expression.toList = .ok tokens)
    (hsegment : Token.scan stage.toList = .ok segment) (hsep : Segment.separator ∉ segment) :
    evaluate r source (expression ++ " $ " ++ stage) location = (do
      let value ← evaluate r source expression location
      runStages r source location ((Segment.ofTokens tokens).getLastD []) value [segment]) := by
  have hscan : Segment.scan expression = .ok (Segment.ofTokens tokens) := by
    rw [Segment.scan, htokens]
    rfl
  have hboth := Segment.scan_append_separated htokens hsegment
  rw [Segment.ofTokens_eq_splitOn segment, List.splitOn_eq_singleton hsep] at hboth
  obtain ⟨selector, stages, hsegments⟩ := List.exists_cons_of_ne_nil
    (Segment.ofTokens_eq_splitOn tokens ▸ List.splitOn_ne_nil Segment.separator tokens)
  rw [hsegments] at hscan
  rw [hsegments, List.cons_append] at hboth
  have hne' : expression ++ " $ " ++ stage ≠ "" := by simp
  rw [evaluate_of_segments r source location hne' hboth,
    evaluate_of_segments r source location hne hscan, runStages_append, hsegments,
    List.getLastD_cons]

/-- An expression with one more stage behind it applies the operation of the stage to the
value of the expression, and stops where the expression stops.  A stage without a name is
malformed, but only when it is reached. -/
theorem evaluate_append_stage {expression : String} {tokens : List Token}
    (hne : expression ≠ "") (htokens : Token.scan expression.toList = .ok tokens)
    (stage : String) :
    (∀ name arguments, Token.scan stage.toList = .ok (name :: arguments) →
      Segment.separator ∉ name :: arguments →
      evaluate r source (expression ++ " $ " ++ stage) location = (do
        let value ← evaluate r source expression location
        applyOperation r value name.text
          (arguments.map fun token => resolveArgument token.text source) location)) ∧
    (Token.scan stage.toList = .ok [] →
      evaluate r source (expression ++ " $ " ++ stage) location = (do
        let _ ← evaluate r source expression location
        throw (.malformed (.missingOperation
          ((((Segment.ofTokens tokens).getLastD []).head?.map Token.text).getD ""))
          location))) := by
  constructor
  · intro name arguments hstage hsep
    rw [evaluate_append_segment r source location hne htokens hstage hsep]
    simp [runStages]
  · intro hstage
    rw [evaluate_append_segment r source location hne htokens hstage List.not_mem_nil]
    simp [runStages]

/-- A stage whose argument is a quoted separator. -/
theorem evaluate_append_stage_join :
    "a $ .X" ≠ "" ∧
    Token.scan "a $ .X".toList = .ok [.word ['a'], .symbol '$', .word ['.', 'X']] ∧
    Token.scan "join '$'".toList = .ok [.word ['j', 'o', 'i', 'n'], .quoted '\'' ['$']] ∧
    Segment.separator ∉ [Token.word ['j', 'o', 'i', 'n'], .quoted '\'' ['$']] ∧
    evaluate .catalog (.object [("a", .null)]) ("a $ .X" ++ " $ " ++ "join '$'") ".out" = (do
      let value ← evaluate .catalog (.object [("a", .null)]) "a $ .X" ".out"
      applyOperation .catalog value "join" [.string "$"] ".out") := by
  have htokens : Token.scan "a $ .X".toList = .ok [.word ['a'], .symbol '$', .word ['.', 'X']] := by
    decide +kernel
  have hstage : Token.scan "join '$'".toList =
      .ok [.word ['j', 'o', 'i', 'n'], .quoted '\'' ['$']] := by decide +kernel
  have hsep : Segment.separator ∉ [Token.word ['j', 'o', 'i', 'n'], .quoted '\'' ['$']] := by
    decide
  have hname : (Token.word ['j', 'o', 'i', 'n']).text = "join" := by decide +kernel
  have hargument : resolveArgument (Token.quoted '\'' ['$']).text (.object [("a", .null)]) =
      .string "$" := by decide +kernel
  have hrun := (evaluate_append_stage .catalog (.object [("a", .null)]) ".out" (by decide) htokens
    "join '$'").1 _ _ hstage hsep
  rw [hname, List.map_cons, List.map_nil, hargument] at hrun
  exact ⟨by decide, htokens, hstage, hsep, hrun⟩

end Reshape
