import Reshape.Proofs.Composition
import Reshape.Proofs.LiteralShape
import Reshape.Proofs.PathLevels
import Reshape.Proofs.StandardRegistry

/-!
# Arguments that stay whole

Literals and paths are read from texts, but an expression is first cut into tokens, and
the two do not agree on where a text ends.  Brackets, braces and commas are tokens of
their own, and a quoted token ends at the first quote of its kind even when the quote is
escaped.  So arrays, objects, strings with such quotes and paths with indexes in brackets
are cut before they are read.

The arguments that reach the operation whole are exactly those that are one token.  A cut
text may still give one argument by accident, when one of its pieces is a separator; a
registry in which nothing but `list` can be applied shows that it does not give the value
of the whole text.

Main results:

- Definition `IsToken`: the texts that are one token.
- Theorem `evaluate_list`: what listing a text gives.
- Theorem `evaluate_whole_iff`: the arguments and selectors that stay whole.
-/

namespace Reshape

/-! ## Texts of arguments -/

/-- Characters of words, and such characters in brackets. -/
inductive Bracketed : List Char → Prop
  | nil : Bracketed []
  | word {c : Char} {cs : List Char} (hc : Token.isWordChar c) (h : Bracketed cs) :
      Bracketed (c :: cs)
  | index {digits cs : List Char} (hdigits : ∀ c ∈ digits, Token.isWordChar c)
      (h : Bracketed cs) : Bracketed ('[' :: (digits ++ ']' :: cs))

/-- A literal, with no blanks around it. -/
def IsLiteralText (text : String) : Prop :=
  Trimmed text.toList ∧ ∃ v, Literal.parse? text = some v

/-- A path whose keys are words, with indexes in brackets. -/
def IsPathText (text : String) : Prop :=
  Bracketed text.toList ∧ ∃ levels, Path.parse text = .ok levels

/-- A path holds nothing but characters of words and brackets. -/
theorem Bracketed.isWordChar_or {cs : List Char} (h : Bracketed cs) {c : Char} (hc : c ∈ cs) :
    Token.isWordChar c ∨ c = '[' ∨ c = ']' := by
  induction h with
  | nil => cases hc
  | word hword h ih =>
    rcases List.mem_cons.mp hc with rfl | hc
    · exact .inl hword
    · exact ih hc
  | index hdigits h ih =>
    rcases List.mem_cons.mp hc with rfl | hc
    · exact .inr (.inl rfl)
    · rcases List.mem_append.mp hc with hc | hc
      · exact .inl (hdigits c hc)
      · rcases List.mem_cons.mp hc with rfl | hc
        · exact .inr (.inr rfl)
        · exact ih hc

/-- A path is a word, or goes on from a word with a bracket. -/
theorem Bracketed.word_or_exists {cs : List Char} (h : Bracketed cs) :
    (∀ c ∈ cs, Token.isWordChar c) ∨
      ∃ front rest, cs = front ++ '[' :: rest ∧ ∀ c ∈ front, Token.isWordChar c := by
  induction h with
  | nil => simp
  | word hc h ih =>
    rcases ih with hword | ⟨front, rest, rfl, hfront⟩
    · exact .inl (List.forall_mem_cons.mpr ⟨hc, hword⟩)
    · exact .inr ⟨_ :: front, rest, rfl, List.forall_mem_cons.mpr ⟨hc, hfront⟩⟩
  | index hdigits h ih =>
    exact .inr ⟨[], _, rfl, by simp⟩

/-- No blank is around a path, or anywhere in it. -/
theorem Bracketed.trimmed {cs : List Char} (h : Bracketed cs) : Trimmed cs := by
  intro c hc
  have hmem : c ∈ cs := by
    rcases hc with hc | hc
    · exact List.mem_of_mem_head? hc
    · exact List.mem_of_mem_getLast? hc
  rcases h.isWordChar_or hmem with hword | rfl | rfl
  · exact Token.isBlank_eq_false_of_isWordChar hword
  · decide
  · decide

/-- No path holds the character that separates segments. -/
theorem Bracketed.separator_notMem {cs : List Char} (h : Bracketed cs) : '$' ∉ cs := by
  intro hmem
  rcases h.isWordChar_or hmem with hword | hopening | hclosing
  · revert hword
    decide
  · contradiction
  · contradiction

/-! ## Listing arguments -/

/-- The operation that lists its arguments. -/
def listArguments : Operation := fun _ arguments =>
  pure (.array arguments)

/-- A registry that has the operation `list` of the catalog. -/
def Registry.HasList (r : Registry) : Prop :=
  r.operation? "list" = Registry.catalog.operation? "list"

/-- The operation `list` of the catalog lists its arguments. -/
theorem Registry.operation?_list : Registry.catalog.operation? "list" = some listArguments := by
  have hmem : Catalog.Entry.direct "list" (.withAny fun _ arguments => .array arguments) ∈
      Catalog.entries := by
    unfold Catalog.entries Catalog.sequences
    simp
  have hfound := Registry.operation?_catalog_of_mem hmem
  exact hfound

/-- Listing forgets the running value. -/
theorem Registry.HasList.applyOperation {r : Registry} (h : r.HasList) (value : Json)
    (arguments : List Json) (location : String) :
    Reshape.applyOperation r value "list" arguments location = pure (.array arguments) := by
  unfold Reshape.applyOperation
  rw [h, operation?_list]
  rfl

/-- The token of the operation `list`. -/
def listToken : Token :=
  .word "list".toList

/-- The tokens of a text that is listed. -/
theorem scan_list (text : String) :
    Token.scan ("$ list " ++ text).toList =
      (Token.scan text.toList).map fun ts => Segment.separator :: listToken :: ts := by
  have hlayout : Layout.WellFormed ⟨[], [(Segment.separator, [' ']), (listToken, [])]⟩ := by
    decide
  have hblank : Text.isBlank ' ' := by decide
  have hapart : Token.StartsApart (' ' :: text.toList) := by
    intro c hc
    obtain rfl : ' ' = c := by simpa using hc
    exact Token.isWordChar_eq_false_of_isBlank hblank
  have htext : ("$ list " ++ text).toList =
      Layout.text ⟨[], [(Segment.separator, [' ']), (listToken, [])]⟩ ++ ' ' :: text.toList := by
    simp [Layout.text, Segment.separator, listToken, Token.characters]
  rw [htext, Layout.scan_text_append hlayout hapart, Token.scan_blank _ hblank]
  rfl

section Listing

variable {r : Registry} {text : String}

/-- A text that is not scanned is not listed either. -/
theorem evaluate_list_of_error {fault : Malformation}
    (hscan : Token.scan text.toList = .error fault) (source : Json) (location : String) :
    evaluate r source ("$ list " ++ text) location = throw (.malformed fault location) := by
  apply evaluate_of_error
  rw [Segment.scan, scan_list, hscan]
  rfl

/-- The tokens of a text are listed up to the first separator among them; the segments
behind it are stages of their own. -/
theorem evaluate_list (hlist : r.HasList) {ts : List Token} {first : Segment}
    {stages : List Segment} (hscan : Token.scan text.toList = .ok ts)
    (hsegments : ts.splitOn Segment.separator = first :: stages) (source : Json)
    (location : String) :
    evaluate r source ("$ list " ++ text) location =
      runStages r source location (listToken :: first)
        (.array (first.map fun token => resolveArgument token.text source)) stages := by
  have hne : "$ list " ++ text ≠ "" := by simp
  have hboth : Segment.scan ("$ list " ++ text) = .ok ([] :: (listToken :: first) :: stages) := by
    rw [Segment.scan, scan_list, hscan]
    have hlist_ne : listToken ≠ Segment.separator := by decide
    simp [Except.map, Segment.ofTokens, Segment.ofTokens_eq_splitOn, hsegments, hlist_ne]
  have hname : listToken.text = "list" := rfl
  rw [evaluate_of_segments r source location hne hboth, runStages, hname,
    hlist.applyOperation, pure_bind]

end Listing

/-! ## A registry without other operations -/

/-- The operation that fails. -/
def reject : Operation := fun _ _ =>
  throw (.invalidArguments "" "" (.other "rejected"))

/-- The registry in which operations fail under all of some names. -/
def rejecting : List String → Registry
  | [] => .empty
  | name :: names => (rejecting names).register name reject

/-- The registry in which, of some names, only `list` can be applied. -/
def onlyList (names : List String) : Registry :=
  (rejecting names).register "list" listArguments

/-- The operation under one of the names fails. -/
theorem operation?_rejecting {names : List String} {name : String} (h : name ∈ names) :
    (rejecting names).operation? name = some reject := by
  induction names with
  | nil => cases h
  | cons first names ih =>
    rw [rejecting, Registry.operation?_register]
    by_cases hfirst : first = name
    · rw [if_pos hfirst]
    · rw [if_neg hfirst]
      exact ih (List.mem_of_ne_of_mem (Ne.symm hfirst) h)

/-- The registry has `list`. -/
theorem hasList_onlyList (names : List String) : (onlyList names).HasList := by
  unfold Registry.HasList onlyList
  rw [Registry.operation?_register, if_pos rfl, Registry.operation?_list]

/-- Stages whose names are all rejected but `list` stop, or the last of them lists its
arguments. -/
theorem runStages_onlyList {names : List String} (source : Json) (location : String)
    {stages : List Segment} (h : ∀ stage ∈ stages, ∀ token ∈ stage, token.text ∈ names)
    (prior : Segment) (value : Json) :
    (∃ error, runStages (onlyList names) source location prior value stages = throw error) ∨
    (stages = [] ∧ runStages (onlyList names) source location prior value stages = pure value) ∨
    ∃ front name arguments, stages = front ++ [name :: arguments] ∧ name.text = "list" ∧
      runStages (onlyList names) source location prior value stages =
        pure (.array (arguments.map fun token => resolveArgument token.text source)) := by
  induction stages generalizing prior value with
  | nil => exact .inr (.inl ⟨rfl, rfl⟩)
  | cons stage stages ih =>
    rcases List.forall_mem_cons.mp h with ⟨hstage, hstages⟩
    cases stage with
    | nil => exact .inl ⟨_, rfl⟩
    | cons name arguments =>
      rw [runStages]
      by_cases hname : name.text = "list"
      · rw [hname, (hasList_onlyList names).applyOperation, pure_bind]
        rcases ih hstages (name :: arguments)
          (.array (arguments.map fun token => resolveArgument token.text source)) with
          hthrow | ⟨rfl, hlast⟩ | ⟨front, last, others, rfl, hlast, hrun⟩
        · exact .inl hthrow
        · exact .inr (.inr ⟨[], name, arguments, rfl, hname, hlast⟩)
        · exact .inr (.inr ⟨(name :: arguments) :: front, last, others, rfl, hlast, hrun⟩)
      · have hreject : (onlyList names).operation? name.text = some reject := by
          unfold onlyList
          rw [Registry.operation?_register, if_neg (Ne.symm hname)]
          exact operation?_rejecting (hstage name List.mem_cons_self)
        refine .inl ⟨(Error.invalidArguments "" "" (.other "rejected")).raisedBy name.text location,
          ?_⟩
        unfold applyOperation
        rw [hreject]
        simp only [reject, Run.mapError_throw, Run.throw_bind]

/-! ## Literals that hold a separator -/

/-- A token that ends with a quote is quoted with it. -/
theorem Token.exists_body_of_getLast? {t : Token} (h : t.WellFormed) {quote : Char}
    (hquote : isQuote quote) (hlast : t.characters.getLast? = some quote) :
    ∃ body, t.characters = quote :: (body ++ [quote]) := by
  cases t with
  | word cs =>
    have hword : isWordChar quote := h.2 quote (List.mem_of_getLast? hlast)
    rw [(isBlank_isWordChar_of_isQuote hquote).2] at hword
    contradiction
  | quoted other body =>
    obtain rfl : other = quote := by
      rw [characters, List.getLast?_concat] at hlast
      exact Option.some.inj hlast
    exact ⟨body, rfl⟩
  | symbol c =>
    obtain rfl : c = quote := by simpa [characters] using hlast
    have hsymbol := h.2.2
    rw [hquote] at hsymbol
    contradiction

/-- An opening bracket is no character of words, and alone no literal. -/
theorem isWordChar_parse?_of_isOpening {c : Char} (h : Literal.isOpening c) :
    Token.isWordChar c = false ∧ Token.isQuote c = false ∧
      Literal.parse? (String.ofList [c]) = none := by
  obtain rfl | rfl : c = '[' ∨ c = '{' := by simpa [Literal.isOpening] using h
  · decide +kernel
  · decide +kernel

/-- One token never stands for a container when the source is null. -/
theorem isContainer_resolveArgument {t : Token} (h : t.WellFormed) :
    (resolveArgument t.text .null).isContainer = false := by
  unfold resolveArgument
  cases hparse : Literal.parse? t.text with
  | none =>
    rw [Option.getD_none, Json.extract_null]
    rfl
  | some v =>
    rw [Option.getD_some]
    rcases Literal.parse?_cases hparse with ⟨c, rest, hdrop, hopening, -⟩ | ⟨rest, hread, -⟩
    · rcases Token.exists_head_of_wellFormed h with ⟨first, cs, hcharacters, hblank, hword⟩
      obtain ⟨rfl, -⟩ : first = c ∧ cs = rest := by
        simpa [Token.text, hcharacters, hblank] using hdrop
      rcases isWordChar_parse?_of_isOpening hopening with ⟨hnotWord, hnotQuote, hnone⟩
      -- An opening bracket is a token of its own, and that token is no literal.
      cases t with
      | word cs =>
        rw [hnotWord] at hword
        contradiction
      | quoted quote body =>
        rcases List.cons.inj hcharacters with ⟨rfl, -⟩
        rw [h.1] at hnotQuote
        contradiction
      | symbol c =>
        rcases List.cons.inj hcharacters with ⟨rfl, -⟩
        rw [Token.text, Token.characters, hnone] at hparse
        contradiction
    · exact Literal.isContainer_eq_false_of_readScalar? hread

/-- Right behind a word no quote is escaped. -/
theorem not_quotesEscaped_of_word {quote : Char} {body front gap rest : List Char}
    (hquote : Token.isQuote quote) (hgap : ∀ c ∈ gap, Text.isBlank c)
    (h : quote :: body = front ++ "list".toList ++ gap ++ quote :: rest) :
    ¬ Literal.QuotesEscaped quote body := by
  intro hescaped
  cases front with
  | nil =>
    rcases List.cons.inj h with ⟨rfl, -⟩
    contradiction
  | cons first front =>
    have hbody : body = front ++ "list".toList ++ gap ++ quote :: rest := (List.cons.inj h).2
    have hlast := hescaped _ _ hbody
    rw [List.getLast?_append, List.getLast?_append] at hlast
    cases hend : gap.getLast? with
    | none => simp [hend] at hlast
    | some c =>
      obtain rfl : c = '\\' := by simpa [hend] using hlast
      have hblank := hgap _ (List.mem_of_getLast? hend)
      contradiction

/-- A literal without blanks around it is a container, a string, or holds no separator. -/
theorem IsLiteralText.cases {text : String} (h : IsLiteralText text) :
    (∃ v, Literal.parse? text = some v ∧ v.isContainer) ∨
    (∃ quote body, Token.isQuote quote ∧ text.toList = quote :: (body ++ [quote]) ∧
      Literal.QuotesEscaped quote body) ∨
    '$' ∉ text.toList := by
  rcases h with ⟨htrimmed, v, hparse⟩
  have hdrop : text.toList.dropWhile Text.isBlank = text.toList := by
    cases htext : text.toList with
    | nil => rfl
    | cons c cs =>
      have hc : Text.isBlank c = false := htrimmed c (.inl (by simp [htext]))
      simp [hc]
  rcases Literal.parse?_cases hparse with ⟨c, rest, -, -, hcontainer⟩ | ⟨rest, hread, hrest⟩
  · exact .inl ⟨v, hparse, hcontainer⟩
  · rw [hdrop] at hread
    rcases Literal.readScalar?_cases hread with ⟨quote, body, hquote, htext, hescaped⟩ | hmem
    · obtain rfl : rest = [] := by
        by_contra hne
        have hlast : rest.getLast hne ∈ text.toList.getLast? := by
          rw [htext]
          simp [List.getLast?_append, List.getLast?_cons, List.getLast?_eq_some_getLast hne]
        have hblank := hrest _ (List.getLast_mem hne)
        rw [htrimmed _ (.inr hlast)] at hblank
        contradiction
      exact .inr (.inl ⟨quote, body, hquote, htext, hescaped⟩)
    · refine .inr (.inr fun hdollar => ?_)
      have hforeign : Numeral.Foreign '$' := ⟨by decide, by decide⟩
      have hblank := hrest '$' (hmem '$' hforeign (by decide) hdollar)
      contradiction

/-- A quoted text whose last token stands right behind `list` holds a quote that is not
escaped. -/
theorem not_quotesEscaped_of_last {quote : Char} {body front gap : List Char} {last : Token}
    (hquote : Token.isQuote quote) (hlast : last.WellFormed)
    (hgap : ∀ c ∈ gap, Text.isBlank c)
    (h : quote :: (body ++ [quote]) = front ++ "list".toList ++ gap ++ last.characters) :
    ¬ Literal.QuotesEscaped quote body := by
  -- The last token ends with the closing quote, so it opens with a quote of that kind.
  have hend : last.characters.getLast? = some quote := by
    rcases Token.exists_head_of_wellFormed hlast with ⟨c, cs, hcs, -⟩
    have hwhole := congrArg List.getLast? h
    rw [List.getLast?_append, ← List.cons_append, List.getLast?_concat] at hwhole
    simpa [hcs, List.getLast?_cons] using hwhole.symm
  rcases Token.exists_body_of_getLast? hlast hquote hend with ⟨inner, hinner⟩
  have hclosed : quote :: body ++ [quote] =
      front ++ "list".toList ++ gap ++ quote :: inner ++ [quote] := by
    rw [List.cons_append, h, hinner]
    simp
  exact not_quotesEscaped_of_word hquote hgap (List.append_cancel_right hclosed)

/-- A literal that holds a separator, with `list` in front of its last token, is not what
that token stands for. -/
theorem resolveArgument_last_ne {text : String} (h : IsLiteralText text) {init : List Token}
    {name last : Token} (hscan : Token.scan text.toList = .ok (init ++ [name, last]))
    (hseparator : Segment.separator ∈ init ++ [name, last]) (hname : name.text = "list") :
    resolveArgument last.text .null ≠ resolveArgument text .null := by
  intro heq
  rcases exists_layout_of_scan hscan with ⟨⟨lead, parts⟩, hl, htext, htokens⟩
  rcases List.map_eq_append_iff.mp htokens with ⟨front, behind, rfl, -, hbehind⟩
  obtain ⟨gap, gap', rfl⟩ : ∃ gap gap', behind = [(name, gap), (last, gap')] := by
    match behind, hbehind with
    | [(_, gap), (_, gap')], rfl => exact ⟨gap, gap', rfl⟩
  have hlast : last.WellFormed := hl.token_wellFormed (last, gap') (by simp)
  rcases h.cases with ⟨v, hparse, hcontainer⟩ | ⟨quote, body, hquote, hbody, hescaped⟩ | hdollar
  · have hresolve : resolveArgument text .null = v := by
      rw [resolveArgument, hparse, Option.getD_some]
    rw [← hresolve, ← heq, isContainer_resolveArgument hlast] at hcontainer
    contradiction
  · have hparts : front ++ [(name, gap), (last, gap')] =
        (front ++ [(name, gap)]) ++ [(last, gap')] := by simp
    rw [hparts] at hl htext
    have htrimmed : Trimmed (Layout.text ⟨lead, (front ++ [(name, gap)]) ++ [(last, gap')]⟩) :=
      htext ▸ h.1
    have hgap' : gap' = [] := Layout.last_gap_eq_nil hl htrimmed
    have hcharacters : name.characters = "list".toList := by
      rw [← hname, Token.text, String.toList_ofList]
    rw [Layout.text_concat, Layout.text_concat, hcharacters, hgap', List.append_nil, hbody] at htext
    have hgap : ∀ c ∈ gap, Text.isBlank c := hl.gap_blank (name, gap) (by simp)
    exact not_quotesEscaped_of_last hquote hlast hgap htext.symm hescaped
  · apply hdollar
    rw [← htext]
    exact Layout.mem_text (htokens ▸ hseparator) List.mem_cons_self

/-! ## Whole arguments -/

/-- No separator is among the tokens of a path. -/
theorem Bracketed.separator_notMem_tokens {text : String} {ts : List Token}
    (h : Bracketed text.toList) (hscan : Token.scan text.toList = .ok ts) :
    Segment.separator ∉ ts := by
  intro hmem
  rcases exists_layout_of_scan hscan with ⟨l, -, htext, rfl⟩
  apply h.separator_notMem
  rw [← htext]
  exact Layout.mem_text hmem List.mem_cons_self

/-- The text of an argument: a literal or a path. -/
def IsArgumentText (text : String) : Prop :=
  IsLiteralText text ∨ IsPathText text

/-- No blanks are around the text of an argument. -/
theorem IsArgumentText.trimmed {text : String} (h : IsArgumentText text) :
    Trimmed text.toList := by
  rcases h with hliteral | hpath
  · exact hliteral.1
  · exact hpath.1.trimmed

/-- The separator is the text of no argument. -/
theorem IsArgumentText.ne_separator {text : String} (h : IsArgumentText text) : text ≠ "$" := by
  rintro rfl
  rcases h with ⟨-, v, hparse⟩ | ⟨hbracketed, -⟩
  · have hnone : Literal.parse? "$" = none := by decide +kernel
    rw [hnone] at hparse
    contradiction
  · exact hbracketed.separator_notMem (by decide)

/-- No separator is among the tokens of a listed argument that stays whole. -/
theorem separator_notMem_of_listed {text : String} (h : IsArgumentText text) {ts : List Token}
    (hscan : Token.scan text.toList = .ok ts)
    (hlisted : ∀ r : Registry, r.HasList → ∀ source location,
      evaluate r source ("$ list " ++ text) location =
        pure (.array [resolveArgument text source])) : Segment.separator ∉ ts := by
  intro hmem
  rcases h with hliteral | hpath
  · obtain ⟨first, stages, hsegments⟩ :=
      List.exists_cons_of_ne_nil (List.splitOn_ne_nil Segment.separator ts)
    have hstages : ∀ stage ∈ stages, ∀ token ∈ stage, token.text ∈ ts.map Token.text := by
      intro stage hstage token htoken
      have hstage' : stage ∈ Segment.ofTokens ts := by
        rw [Segment.ofTokens_eq_splitOn, hsegments]
        exact List.mem_cons_of_mem first hstage
      exact List.mem_map_of_mem (Segment.mem_and_ne_of_mem_ofTokens hstage' htoken).1
    have hrun := hlisted (onlyList (ts.map Token.text)) (hasList_onlyList _) .null ""
    rw [evaluate_list (hasList_onlyList _) hscan hsegments] at hrun
    rcases runStages_onlyList .null "" hstages (listToken :: first)
      (.array (first.map fun token => resolveArgument token.text .null)) with
      ⟨error, hthrow⟩ | ⟨rfl, -⟩ | ⟨front, name, arguments, rfl, hname, hvalue⟩
    · rw [hthrow] at hrun
      exact Run.throw_ne_pure _ _ hrun
    · have hjoin : [Segment.separator].intercalate (ts.splitOn Segment.separator) = ts :=
        List.intercalate_splitOn _
      rw [hsegments, List.intercalate_singleton] at hjoin
      subst hjoin
      have hfirst : first ∈ Segment.ofTokens first := by
        rw [Segment.ofTokens_eq_splitOn, hsegments]
        exact List.mem_singleton_self first
      exact Segment.separator_notMem_of_mem_ofTokens hfirst hmem
    · rw [hvalue] at hrun
      obtain ⟨last, rfl, hlast⟩ : ∃ last, arguments = [last] ∧
          resolveArgument last.text .null = resolveArgument text .null := by
        have harray := Json.array.inj (Run.pure_inj hrun)
        rcases List.map_eq_singleton_iff.mp harray with ⟨last, rfl, hlast⟩
        exact ⟨last, rfl, hlast⟩
      rw [← List.cons_append] at hsegments
      rcases Segment.exists_append_of_splitOn hsegments with ⟨init, rfl⟩
      exact resolveArgument_last_ne hliteral hscan hmem hname hlast
  · exact hpath.1.separator_notMem_tokens hscan hmem

/-- A listed argument that stays whole is one token. -/
theorem isToken_of_listed {text : String} (h : IsArgumentText text)
    (hlisted : ∀ r : Registry, r.HasList → ∀ source location,
      evaluate r source ("$ list " ++ text) location =
        pure (.array [resolveArgument text source])) : IsToken text := by
  have hrun := hlisted .catalog rfl .null ""
  cases hscan : Token.scan text.toList with
  | error fault =>
    rw [evaluate_list_of_error hscan] at hrun
    exact absurd hrun (Run.throw_ne_pure _ _)
  | ok ts =>
    have hseparator := separator_notMem_of_listed h hscan hlisted
    rw [evaluate_list rfl hscan (List.splitOn_eq_singleton hseparator), runStages] at hrun
    have harray := Json.array.inj (Run.pure_inj hrun)
    rcases List.map_eq_singleton_iff.mp harray with ⟨t, rfl, -⟩
    exact isToken_of_scan h.trimmed hscan

/-- An argument that is one token is listed whole. -/
theorem evaluate_list_of_isToken {text : String} (h : IsArgumentText text) (htoken : IsToken text)
    {r : Registry} (hlist : r.HasList) (source : Json) (location : String) :
    evaluate r source ("$ list " ++ text) location =
      pure (.array [resolveArgument text source]) := by
  rcases htoken with ⟨t, ht, rfl⟩
  have hseparator := Segment.separator_notMem_singleton h.ne_separator
  rw [evaluate_list hlist (Token.scan_of_text_eq ht rfl) (List.splitOn_eq_singleton hseparator)]
  rfl

/-! ## Whole selectors -/

/-- A path that goes on from a word with a bracket starts with the token of the word, or
with the bracket where there is no word. -/
theorem exists_tokens_of_bracket {front rest : List Char} {ts : List Token}
    (hfront : ∀ c ∈ front, Token.isWordChar c)
    (hscan : Token.scan (front ++ '[' :: rest) = .ok ts) :
    ∃ others, ts = (if front = [] then .symbol '[' else .word front) :: others := by
  by_cases hempty : front = []
  · subst hempty
    have hsymbol : (Token.symbol '[').WellFormed := by decide
    have hapart : (Token.symbol '[').isWord → Token.StartsApart rest := by simp [Token.isWord]
    have htokens := Token.scan_token hsymbol hapart
    rw [Token.characters, List.singleton_append, ← List.nil_append ('[' :: rest), hscan] at htokens
    rcases exists_of_map_eq_ok htokens.symm with ⟨others, -, hothers⟩
    exact ⟨others, hothers.symm⟩
  · have hword : (Token.word front).WellFormed := ⟨hempty, hfront⟩
    have hapart : (Token.word front).isWord → Token.StartsApart ('[' :: rest) := by
      intro _ c hc
      obtain rfl : '[' = c := by simpa using hc
      decide +kernel
    have htokens := Token.scan_token hword hapart
    rw [Token.characters, hscan] at htokens
    rcases exists_of_map_eq_ok htokens.symm with ⟨others, -, hothers⟩
    exact ⟨others, by simp [← hothers, hempty]⟩

/-- What is selected by the first token of a path that goes on from a word with a bracket:
the source, the value at the word, or null. -/
theorem startValue_of_bracket {front : List Char} {source leaf : Json} (hleaf : leaf ≠ .null)
    (hsource : source ≠ leaf) (hfront : source.extract (String.ofList front) ≠ leaf)
    (others : List Token) :
    startValue source ((if front = [] then .symbol '[' else .word front) :: others) ≠ leaf := by
  rw [startValue]
  by_cases hempty : front = []
  · have htext : (Token.symbol '[').text = "[" := by decide
    have hparse : Path.parse "[" = .error (.badIndex "[") := by decide
    have hnull : source.extract "[" = .null := by simp [Json.extract, hparse]
    rw [if_pos hempty, htext, if_neg (by decide), hnull]
    exact hleaf.symm
  · rw [if_neg hempty]
    by_cases hstar : (Token.word front).text = "*"
    · rw [if_pos hstar]
      exact hsource
    · rw [if_neg hstar]
      exact hfront

/-- A path with a bracket does not select with its whole text. -/
theorem exists_evaluate_ne_of_bracket {front rest : List Char} {levels : List Level}
    (hbracketed : Bracketed (front ++ '[' :: rest))
    (hfront : ∀ c ∈ front, Token.isWordChar c)
    (hparse : Path.parse (String.ofList (front ++ '[' :: rest)) = .ok levels) :
    ∃ source : Json, evaluate .empty source (String.ofList (front ++ '[' :: rest)) "" ≠
      pure (source.extract (String.ofList (front ++ '[' :: rest))) := by
  have hopening : '[' ∉ front := fun hmem => absurd (hfront _ hmem) (by decide)
  have hclosing : ']' ∉ front := fun hmem => absurd (hfront _ hmem) (by decide)
  rcases Json.exists_extract_ne hopening hclosing hparse with ⟨source, hvalue, hsource, hstart⟩
  refine ⟨source, fun hrun => ?_⟩
  rw [hvalue] at hrun
  generalize htext : String.ofList (front ++ '[' :: rest) = text at hrun
  have hcharacters : text.toList = front ++ '[' :: rest := by
    rw [← htext, String.toList_ofList]
  cases hscan : Token.scan text.toList with
  | error fault =>
    have hsegments : Segment.scan text = .error fault := by
      rw [Segment.scan, hscan]
      rfl
    rw [evaluate_of_error _ _ _ hsegments] at hrun
    exact Run.throw_ne_pure _ _ hrun
  | ok ts =>
    have hne : text ≠ "" := by
      rintro rfl
      simp at hcharacters
    have hseparator := Bracketed.separator_notMem_tokens (hcharacters ▸ hbracketed) hscan
    rw [evaluate_selector _ _ _ hne hscan hseparator] at hrun
    rw [hcharacters] at hscan
    rcases exists_tokens_of_bracket hfront hscan with ⟨others, rfl⟩
    exact startValue_of_bracket (by simp) hsource hstart others (Run.pure_inj hrun)

/-- A path that selects with its whole text is one token. -/
theorem isToken_of_selected {text : String} (h : IsPathText text)
    (hselected : ∀ r source location,
      evaluate r source text location = pure (source.extract text)) : IsToken text := by
  rcases h with ⟨hbracketed, levels, hparse⟩
  by_cases hne : text = ""
  · subst hne
    have hvalue := Run.pure_inj (hselected .empty (.bool true) "")
    contradiction
  · rcases hbracketed.word_or_exists with hword | ⟨front, rest, htext, hfront⟩
    · have hcharacters : text.toList ≠ [] := by simpa using hne
      exact ⟨.word text.toList, ⟨hcharacters, hword⟩, String.ofList_toList⟩
    · obtain rfl : String.ofList (front ++ '[' :: rest) = text := by
        rw [← htext, String.ofList_toList]
      rw [String.toList_ofList] at hbracketed
      rcases exists_evaluate_ne_of_bracket hbracketed hfront hparse with ⟨source, hrun⟩
      exact absurd (hselected .empty source "") hrun

/-- An argument is listed whole, and a path other than a star selects with its whole text,
exactly when the text is one token. -/
theorem evaluate_whole_iff {text : String} (h : IsArgumentText text) :
    ((∀ r : Registry, r.HasList → ∀ source location,
      evaluate r source ("$ list " ++ text) location =
        pure (.array [resolveArgument text source])) ↔ IsToken text) ∧
    (IsPathText text → text ≠ "*" →
      ((∀ r source location, evaluate r source text location = pure (source.extract text)) ↔
        IsToken text)) := by
  refine ⟨⟨isToken_of_listed h, fun htoken r hlist source location => ?_⟩,
    fun hpath hstar => ⟨isToken_of_selected hpath, fun htoken r source location => ?_⟩⟩
  · exact evaluate_list_of_isToken h htoken hlist source location
  · exact evaluate_of_isToken h.ne_separator hstar htoken r source location

/-- The path `grid[1][0].x` is cut, as a listed argument and as a selector. -/
theorem evaluate_whole_grid :
    IsArgumentText "grid[1][0].x" ∧ IsPathText "grid[1][0].x" ∧ "grid[1][0].x" ≠ "*" ∧
    (¬ ∀ r : Registry, r.HasList → ∀ source location,
      evaluate r source ("$ list " ++ "grid[1][0].x") location =
        pure (.array [resolveArgument "grid[1][0].x" source])) ∧
    ¬ ∀ r source location,
      evaluate r source "grid[1][0].x" location = pure (source.extract "grid[1][0].x") := by
  have hbracketed : Bracketed "grid[1][0].x".toList := by
    refine .word (c := 'g') ?_ (.word (c := 'r') ?_ (.word (c := 'i') ?_ (.word (c := 'd') ?_ ?_)))
    iterate 4 decide +kernel
    have hone : ∀ c ∈ ['1'], Token.isWordChar c :=
      List.forall_mem_singleton.mpr (by decide +kernel)
    have hzero : ∀ c ∈ ['0'], Token.isWordChar c :=
      List.forall_mem_singleton.mpr (by decide +kernel)
    refine .index hone (.index hzero (.word (c := '.') ?_ (.word (c := 'x') ?_ .nil)))
    iterate 2 decide +kernel
  have hparse : Path.parse "grid[1][0].x" =
      .ok [.item "grid" 1, .item "" 0, .key "x"] := by decide +kernel
  have hpath : IsPathText "grid[1][0].x" := ⟨hbracketed, _, hparse⟩
  have hstar : "grid[1][0].x" ≠ "*" := by decide
  have hcut : ¬ IsToken "grid[1][0].x" := by
    rintro ⟨t, ht, htext⟩
    have hcount : (Token.scan "grid[1][0].x".toList).map List.length = .ok 8 := by decide +kernel
    rw [Token.scan_of_text_eq ht htext] at hcount
    simp [Except.map] at hcount
  have hwhole := evaluate_whole_iff (.inr hpath)
  exact ⟨.inr hpath, hpath, hstar, fun hall => hcut (hwhole.1.mp hall),
    fun hall => hcut ((hwhole.2 hpath hstar).mp hall)⟩

end Reshape
