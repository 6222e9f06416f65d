import Reshape.Proofs.RenderedValues
import Reshape.Proofs.WholeArguments

/-!
# Scalars in expressions

A value without parts can be written into an expression as an argument.  The scanner knows
no escapes, so a double quote inside a string is written as an escape with four digits
instead of one behind a backslash.  Then no quote stands inside a string, and a string is
one quoted token whatever blanks, separators, brackets and backslashes it holds; all other
values without parts are single words.

Main results:

- Definition `Json.argumentText`: a value as it is written into an expression.
- Theorem `exists_token_of_argument`: such a text is one token and stands for the value.
- Theorem `Token.scan_intercalate`: tokens with blanks between them are scanned one by one.
- Theorem `evaluate_list_arguments`: every list of values without parts is listed back.
-/

namespace Reshape

/-! ## Arguments -/

/-- A character of a string in an argument: as in every written string, but for the double
quote. -/
def escapeArgument (c : Char) : List Char :=
  if c = '"' then "\\u0022".toList else Json.escape c

/-- A value as an argument of an expression. -/
def Json.argumentText : Json → String
  | .string s => String.ofList ('"' :: s.toList.flatMap escapeArgument ++ ['"'])
  | v => v.compact

/-- An escaped character spells the character between double quotes. -/
theorem spells_escapeArgument (c : Char) {body value : List Char}
    (h : Spells (Literal.stringRules IsHexQuad) '"' body value) :
    Spells (Literal.stringRules IsHexQuad) '"' (escapeArgument c ++ body) (c :: value) := by
  unfold escapeArgument
  split
  · rename_i hquote
    subst hquote
    have hquad : IsHexQuad ['0', '0', '2', '2'] '"'.toNat := ⟨rfl, by decide⟩
    exact Literal.spells_unit hquad h
  · exact Literal.spells_escape c h

/-- No double quote stands in an escaped character. -/
theorem quote_notMem_escapeArgument (c : Char) : '"' ∉ escapeArgument c := by
  unfold escapeArgument
  split
  · decide
  · rename_i hquote
    unfold Json.escape
    split
    · contradiction
    · decide
    · decide
    · decide
    · decide
    · decide
    · decide
    · split
      · rename_i hcontrol
        have hall : ∀ n < 0x20, '"' ∉ ['\\', 'u', '0', '0', Nat.digitChar (n / 16),
            Nat.digitChar (n % 16)] := by decide
        exact hall c.toNat hcontrol
      · simpa using Ne.symm hquote

/-! ## Tokens -/

/-- A numeral is written with characters of words. -/
theorem NumeralText.WellFormed.isWordChar {t : NumeralText} (h : t.WellFormed) :
    ∀ c ∈ t.characters, Token.isWordChar c := by
  have hdigits : ∀ {cs : List Char}, IsDigits cs → ∀ c ∈ cs, Token.isWordChar c :=
    fun hcs c hc => Token.isWordChar_of_isAlphanum (by simp [Char.isAlphanum, hcs c hc])
  have hmarks : ∀ c ∈ ['+', '-', '.', 'e', 'E'], Token.isWordChar c :=
    List.all_iff_forall_prop.mp (by decide)
  have hsign : ∀ {cs : List Char}, IsSign cs → ∀ c ∈ cs, Token.isWordChar c := by
    rintro cs (rfl | rfl | rfl) c hc
    · exact absurd hc List.not_mem_nil
    · exact hmarks c (by simp_all)
    · exact hmarks c (by simp_all)
  have hfraction : ∀ c ∈ fractionCharacters t.fraction?, Token.isWordChar c := by
    cases hpoint : t.fraction? with
    | none => simp [fractionCharacters]
    | some digits =>
      exact List.forall_mem_cons.mpr ⟨hmarks '.' (by decide), hdigits (h.fraction digits hpoint)⟩
  have hexponent : ∀ c ∈ exponentCharacters t.exponent?, Token.isWordChar c := by
    cases hmark : t.exponent? with
    | none => simp [exponentCharacters]
    | some e =>
      have he := h.exponent e hmark
      have hletter : Token.isWordChar e.mark :=
        hmarks e.mark (by rcases he.mark with heq | heq <;> simp [heq])
      exact List.forall_mem_append.mpr
        ⟨List.forall_mem_cons.mpr ⟨hletter, hsign he.sign⟩, hdigits he.digits⟩
  exact List.forall_mem_append.mpr ⟨hsign h.sign, List.forall_mem_append.mpr
    ⟨hdigits h.whole, List.forall_mem_append.mpr ⟨hfraction, hexponent⟩⟩⟩

namespace Token

/-- Tokens with single blanks between them are scanned one by one. -/
theorem scan_intercalate {ts : List Token} (h : ∀ t ∈ ts, t.WellFormed) :
    scan (List.intercalate [' '] (ts.map characters)) = .ok ts := by
  have hblank : Text.isBlank ' ' := by decide
  induction ts with
  | nil => exact scan_nil
  | cons t ts ih =>
    obtain ⟨ht, hts⟩ := List.forall_mem_cons.mp h
    cases ts with
    | nil =>
      have hscan := scan_token ht (fun _ => (by simp [StartsApart] : StartsApart []))
      simpa [Except.map] using hscan
    | cons next ts =>
      have hapart : StartsApart (' ' :: List.intercalate [' '] ((next :: ts).map characters)) := by
        intro c hc
        obtain rfl : ' ' = c := by simpa using hc
        exact isWordChar_eq_false_of_isBlank hblank
      rw [List.map_cons, List.map_cons, List.intercalate_cons_cons, List.append_assoc,
        List.singleton_append, ← List.map_cons, scan_token ht fun _ => hapart,
        scan_blank _ hblank, ih hts]
      rfl

end Token

/-- A written word or number is one word. -/
theorem exists_word_of_render {v : Json} (h : v.Valid) (hscalar : v.isContainer = false)
    (hstring : v.string? = none) : Token.WellFormed (.word v.render) := by
  cases v with
  | string s => contradiction
  | array items => contradiction
  | object fields => contradiction
  | null => decide
  | bool b => cases b <;> decide
  | number x =>
    rcases Number.exists_text_of_render h with ⟨t, ht, hcharacters, -⟩
    rw [Json.render, ← hcharacters]
    rcases ht.exists_head with ⟨c, cs, hhead, -⟩
    exact ⟨by simp [hhead], ht.isWordChar⟩

/-- The argument of a value without parts is one token and a literal for the value. -/
theorem exists_token_of_argument {v : Json} (h : v.Valid) (hscalar : v.isContainer = false) :
    ∃ t : Token, t.WellFormed ∧ t.text = v.argumentText ∧ Literal.parse? t.text = some v := by
  cases hstring : v.string? with
  | some s =>
    obtain rfl : v = .string s := by
      cases v <;> simp_all [Json.string?]
    refine ⟨.quoted '"' (s.toList.flatMap escapeArgument), ⟨by decide, ?_⟩, rfl, ?_⟩
    · intro hmem
      rcases List.mem_flatMap.mp hmem with ⟨c, -, hc⟩
      exact quote_notMem_escapeArgument c hc
    · exact Literal.parse?_of_derives (.scalar (.string
        (Literal.isString_flatMap (fun c _ _ h => spells_escapeArgument c h) s)))
  | none =>
    have htext : v.argumentText = v.compact := by
      cases v with
      | string s => contradiction
      | _ => rfl
    refine ⟨.word v.render, exists_word_of_render h hscalar hstring, htext.symm, ?_⟩
    exact Literal.parse?_of_derives (Literal.derives_render v h)

/-! ## Lists of arguments -/

/-- A separator is no literal. -/
theorem ne_separator_of_parse? {t : Token} {v : Json} (h : Literal.parse? t.text = some v) :
    t ≠ Segment.separator := by
  rintro rfl
  have hnone : Literal.parse? Segment.separator.text = none := by decide
  rw [hnone] at h
  contradiction

/-- The tokens of values without parts, which resolve to the values whatever the source is. -/
theorem exists_tokens_of_arguments {vs : List Json}
    (h : ∀ v ∈ vs, v.Valid ∧ v.isContainer = false) : ∃ ts : List Token,
      (∀ t ∈ ts, t.WellFormed) ∧ Segment.separator ∉ ts ∧
        ts.map Token.text = vs.map Json.argumentText ∧
          ∀ source, ts.map (fun t => resolveArgument t.text source) = vs := by
  induction vs with
  | nil => exact ⟨[], by simp, by simp, rfl, fun _ => rfl⟩
  | cons v vs ih =>
    obtain ⟨⟨hvalid, hscalar⟩, hvs⟩ := List.forall_mem_cons.mp h
    rcases ih hvs with ⟨ts, hts, hseparator, htexts, hresolve⟩
    rcases exists_token_of_argument hvalid hscalar with ⟨t, ht, htext, hparse⟩
    refine ⟨t :: ts, List.forall_mem_cons.mpr ⟨ht, hts⟩, ?_, by simp [htext, htexts], ?_⟩
    · exact List.not_mem_cons_of_ne_of_not_mem (ne_separator_of_parse? hparse).symm hseparator
    · intro source
      rw [List.map_cons, hresolve source, resolveArgument, hparse, Option.getD_some]

/-- Arguments with single blanks between them are scanned one by one. -/
theorem scan_arguments {ts : List Token} (h : ∀ t ∈ ts, t.WellFormed) {vs : List Json}
    (htexts : ts.map Token.text = vs.map Json.argumentText) :
    Token.scan (" ".intercalate (vs.map Json.argumentText)).toList = .ok ts := by
  have hcharacters : (ts.map Token.text).map String.toList = ts.map Token.characters := by
    rw [List.map_map]
    exact List.map_congr_left fun t _ => by simp [Token.text]
  rw [← htexts, String.toList_intercalate, hcharacters]
  exact Token.scan_intercalate h

/-- Every list of values without parts is listed back by an expression that embeds them,
whatever the source is. -/
theorem evaluate_list_arguments {vs : List Json} (h : ∀ v ∈ vs, v.Valid ∧ v.isContainer = false)
    (source : Json) (location : String) :
    evaluate Registry.catalog source
      ("$ list " ++ " ".intercalate (vs.map Json.argumentText)) location = pure (.array vs) := by
  rcases exists_tokens_of_arguments h with ⟨ts, hts, hseparator, htexts, hresolve⟩
  rw [evaluate_list rfl (scan_arguments hts htexts) (List.splitOn_eq_singleton hseparator),
    runStages, hresolve]

/-- Scalars of every kind, with strings that try to end early, to start a stage, to open an
array and to end with a backslash. -/
def awkwardScalars : List Json :=
  [.null, .bool true, .number (.integer (-7)), .number (.float (.zero true)),
    .number (.float ⟨false, 5629499534213120, 1023, by decide, by decide, by decide⟩),
    .string "", .string "\" $ list \"", .string "a\\", .string "'[1,2]'", .string "\n\x01\u00e9"]

/-- The awkward scalars are listed back. -/
theorem evaluate_list_awkwardScalars :
    (∀ v ∈ awkwardScalars, v.Valid ∧ v.isContainer = false) ∧
      evaluate Registry.catalog .null
        ("$ list " ++ " ".intercalate (awkwardScalars.map Json.argumentText)) "" =
          pure (.array awkwardScalars) := by
  have h : ∀ v ∈ awkwardScalars, v.Valid ∧ v.isContainer = false := by
    simp [awkwardScalars, Json.Valid, Json.isContainer, Number.Valid, isSigned64]
  exact ⟨h, evaluate_list_arguments h .null ""⟩

end Reshape
