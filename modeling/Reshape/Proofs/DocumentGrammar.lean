import Reshape.Proofs.LiteralGrammar

/-!
# The grammar of documents

The strict notation has a grammar of the same form as that of literals, with fewer blanks,
words, numerals and strings, no comma behind a last part, and containers of bounded depth.
Two of its texts have no counterpart among literals: an escape that writes one half of a
surrogate pair, and the numeral `-0`, which a literal takes for the integer zero.  A text
is plain when it can be written without the two.

What is plain in the strict notation stands for the same value as a literal, whatever its
depth, its blanks, its escapes and the order of its fields are.

Main results:

- Theorem `Json.ofDocument?_eq_some_iff`: the strict reader takes exactly the texts of the
  strict grammar.
- Theorem `Document.isPlain_of_infix`: texts that are plain at sight.
- Theorem `Literal.parse?_of_ofDocument?`: a plain document is read as a literal with the
  same value.
-/

namespace Reshape

namespace Document

open Token

/-! ## Grammars -/

/-- The words and what they stand for. -/
def words : List (String × Json) :=
  [("null", .null), ("true", .bool true), ("false", .bool false)]

/-- The texts of values without parts, where escapes and numerals may be restricted. -/
inductive IsScalar (IsEscape : List Char → List Char → Prop) (IsNumeral : NumeralText → Prop) :
    List Char → Json → Prop
  | word {word : String} {v : Json} : (word, v) ∈ words → IsScalar IsEscape IsNumeral word.toList v
  | number {t : NumeralText} {x : Number} : t.WellFormed → t.Strict → IsNumeral t →
      t.DenotesStrictly x → IsScalar IsEscape IsNumeral t.characters (.number x)
  | string {text : List Char} {s : String} : (stringRules IsEscape).IsString ['"'] text s →
      IsScalar IsEscape IsNumeral text (.string s)

/-- The grammar with some of the escapes and numerals. -/
def grammarOf (IsEscape : List Char → List Char → Prop) (IsNumeral : NumeralText → Prop) :
    Grammar where
  isBlank := isBlank
  IsScalar := IsScalar IsEscape IsNumeral
  IsName := (stringRules IsEscape).IsString ['"']
  allowsTrailingComma := false

/-- The strict grammar. -/
def grammar : Grammar :=
  grammarOf IsEscape fun _ => True

/-- The strict grammar without escapes for halves of surrogate pairs and without `-0`. -/
def plainGrammar : Grammar :=
  grammarOf (IsCommonEscape IsHexQuad) fun t => ¬ t.IsMinusZero

/-- A text of the strict notation in which no escape stands for half of a surrogate pair and
no numeral is `-0`. -/
def IsPlain (text : String) : Prop :=
  ∃ v, plainGrammar.Derives dialect.maxDepth (.slot v) text.toList

/-- The words are read letter by letter. -/
theorem readWord?_eq_some_iff (word : String) (cs rest : List Char) :
    readWord? word cs = some rest ↔ cs = word.toList ++ rest := by
  rw [readWord?, List.isPrefixOf?_eq_some_iff_append_eq, eq_comm]

/-- The blanks of documents are white space. -/
theorem isBlank_of_isBlank {c : Char} (h : isBlank c) : Text.isBlank c := by
  simp only [isBlank, Bool.or_eq_true, beq_iff_eq] at h
  rcases h with ((rfl | rfl) | rfl) | rfl <;> decide

/-- A character of words can start a scalar. -/
theorem starts_of_isWordChar {c : Char} (h : isWordChar c) : grammar.Starts c := by
  refine ⟨?_, fun hmark => ?_⟩
  · rw [Bool.eq_false_iff]
    intro hblank
    have := isBlank_eq_false_of_isWordChar h
    rw [isBlank_of_isBlank hblank] at this
    contradiction
  · rw [isWordChar_mark c hmark] at h
    contradiction

/-- A quote can start a scalar. -/
theorem starts_quote : grammar.Starts '"' :=
  ⟨by decide, by decide⟩

/-- Behind a value no word runs on. -/
theorem startsApart_of_delimits {rest : List Char} (h : grammar.Delimits rest) :
    StartsApart rest := by
  intro c hc
  rcases h c hc with hblank | hmark
  · exact isWordChar_eq_false_of_isBlank (isBlank_of_isBlank hblank)
  · exact isWordChar_mark c (mem_marks_of_closes c hmark)

/-- A text of a value without parts starts with what can start one. -/
theorem exists_head_of_isScalar {text : List Char} {v : Json} (h : grammar.IsScalar text v) :
    ∃ c cs, text = c :: cs ∧ grammar.Starts c := by
  cases h with
  | @word word _ hmem =>
    have hall : ∀ entry ∈ words, entry.1.toList.head?.any isWordChar := by decide
    rcases (Option.any_eq_true _ _).mp (hall (word, v) hmem) with ⟨c, hc, hword⟩
    rcases List.head?_eq_some_iff.mp hc with ⟨cs, hcs⟩
    exact ⟨c, cs, hcs, starts_of_isWordChar hword⟩
  | number ht _ _ _ =>
    rcases ht.exists_head with ⟨c, cs, hcharacters, hc⟩
    exact ⟨c, cs, hcharacters, starts_of_isWordChar (Literal.isWordChar_of_startsNumber hc).2⟩
  | string hstring =>
    rcases hstring with ⟨quote, hquote, body, value, -, rfl, -⟩
    obtain rfl := List.mem_singleton.mp hquote
    exact ⟨'"', _, rfl, starts_quote⟩

/-- What is read as a value without parts is written as one. -/
theorem isScalar_of_readScalar? {cs rest : List Char} {v : Json}
    (h : readScalar? cs = some (v, rest)) :
    ∃ text, grammar.IsScalar text v ∧ cs = text ++ rest := by
  unfold readScalar? at h
  split at h
  · rcases Option.map_eq_some_iff.mp h with ⟨⟨s, after⟩, hread, h⟩
    obtain ⟨rfl, rfl⟩ := Prod.mk.inj h
    rcases readString?_eq_some_iff.mp hread with ⟨text, htext, hstring⟩
    exact ⟨text, .string hstring, htext⟩
  · rcases Option.map_eq_some_iff.mp h with ⟨after, hread, h⟩
    obtain ⟨rfl, rfl⟩ := Prod.mk.inj h
    exact ⟨_, .word (by simp [words]), (readWord?_eq_some_iff _ _ _).mp hread⟩
  · rcases Option.map_eq_some_iff.mp h with ⟨after, hread, h⟩
    obtain ⟨rfl, rfl⟩ := Prod.mk.inj h
    exact ⟨_, .word (by simp [words]), (readWord?_eq_some_iff _ _ _).mp hread⟩
  · rcases Option.map_eq_some_iff.mp h with ⟨after, hread, h⟩
    obtain ⟨rfl, rfl⟩ := Prod.mk.inj h
    exact ⟨_, .word (by simp [words]), (readWord?_eq_some_iff _ _ _).mp hread⟩
  · rcases Option.bind_eq_some_iff.mp h with ⟨⟨numeral, after⟩, hread, h⟩
    rcases Option.map_eq_some_iff.mp h with ⟨x, hx, h⟩
    obtain ⟨rfl, rfl⟩ := Prod.mk.inj h
    rcases exists_text_of_readNumeral? hread with ⟨t, ht, hstrict, htext, rfl⟩
    have hdenotes := (number?_eq_some_iff ht hstrict x).mp hx
    exact ⟨t.characters, .number ht hstrict trivial hdenotes, htext⟩

/-- A value without parts is read where no word runs on. -/
theorem readScalar?_of_isScalar {text rest : List Char} {v : Json} (h : grammar.IsScalar text v)
    (hrest : StartsApart rest) : readScalar? (text ++ rest) = some (v, rest) := by
  cases h with
  | @word word _ hmem =>
    have hread : readWord? word (word.toList ++ rest) = some rest :=
      (readWord?_eq_some_iff word _ rest).mpr rfl
    simp only [words, List.mem_cons, Prod.mk.injEq, List.not_mem_nil, or_false] at hmem
    rcases hmem with ⟨rfl, rfl⟩ | ⟨rfl, rfl⟩ | ⟨rfl, rfl⟩
    · exact congrArg (Option.map fun rest => (Json.null, rest)) hread
    · exact congrArg (Option.map fun rest => (Json.bool true, rest)) hread
    · exact congrArg (Option.map fun rest => (Json.bool false, rest)) hread
  | @number t x ht hstrict _ hx =>
    have hread := readNumeral?_characters ht hstrict hrest.ends.1
    rcases ht.exists_head with ⟨c, cs, hcharacters, hc⟩
    have hletter : ∀ d ∈ ['"', 'n', 't', 'f'], c ≠ d := by
      rintro d hd rfl
      have hall : ∀ d ∈ ['"', 'n', 't', 'f'], Literal.startsNumber d = false :=
        List.all_iff_forall_prop.mp (by decide)
      rw [hall c hd] at hc
      contradiction
    rw [hcharacters, List.cons_append] at hread ⊢
    unfold readScalar?
    split
    · simp_all
    · simp_all
    · simp_all
    · simp_all
    · rw [hread, Option.bind_some]
      dsimp only
      rw [(number?_eq_some_iff ht hstrict x).mpr hx]
      rfl
  | @string _ s hstring =>
    have hread : readString? (text ++ rest) = some (s, rest) :=
      readString?_eq_some_iff.mpr ⟨text, rfl, hstring⟩
    rcases hstring with ⟨quote, hquote, body, value, -, rfl, -⟩
    obtain rfl := List.mem_singleton.mp hquote
    rw [List.cons_append] at hread ⊢
    rw [readScalar?, hread]
    rfl

/-- The strict reader follows the strict grammar. -/
theorem dialect_follows : dialect.Follows grammar where
  isBlank_eq := rfl
  allowsTrailingComma_eq := rfl
  isBlank_mark := List.all_iff_forall_prop.mp (by decide)
  head_scalar := exists_head_of_isScalar
  head_name := by
    rintro text name ⟨quote, hquote, body, value, -, rfl, -⟩
    obtain rfl := List.mem_singleton.mp hquote
    exact ⟨'"', _, rfl, starts_quote⟩
  sound_scalar := isScalar_of_readScalar?
  sound_name := by
    intro cs rest name h
    rcases readString?_eq_some_iff.mp h with ⟨text, htext, hstring⟩
    exact ⟨text, hstring, htext⟩
  complete_scalar := fun h _ hrest => readScalar?_of_isScalar h (startsApart_of_delimits hrest)
  complete_name := fun h rest => readString?_eq_some_iff.mpr ⟨_, rfl, h⟩

end Document

/-- The strict reader takes exactly the texts of the strict grammar. -/
theorem Json.ofDocument?_eq_some_iff {text : String} {v : Json} : Json.ofDocument? text = some v ↔
    Document.grammar.Derives Document.dialect.maxDepth (.slot v) text.toList :=
  Document.dialect_follows.read?_eq_some_iff

namespace Document

/-! ## Plain texts -/

/-- Strict grammars compare as their escapes and numerals do. -/
theorem extends_grammarOf {P : List Char → Prop} (hP : PartClosed P)
    {IsEscape IsEscape' : List Char → List Char → Prop} {IsNumeral IsNumeral' : NumeralText → Prop}
    (hescape : ∀ text meaning, P ('\\' :: text) → IsEscape text meaning → IsEscape' text meaning)
    (hnumeral : ∀ t : NumeralText, P t.characters → IsNumeral t → IsNumeral' t) :
    Grammar.Extends P (grammarOf IsEscape IsNumeral) (grammarOf IsEscape' IsNumeral') := by
  have hstring : ∀ {text s}, P text → (stringRules IsEscape).IsString ['"'] text s →
      (stringRules IsEscape').IsString ['"'] text s := by
    intro text s htext hstring
    apply hstring.mono hP _ hescape (List.Subset.refl _) htext
    exact fun _ hplain => hplain
  refine ⟨hP, id, fun htext hscalar => ?_, hstring, id⟩
  cases hscalar with
  | word hmem => exact .word hmem
  | number ht hstrict hallowed hx => exact .number ht hstrict (hnumeral _ htext hallowed) hx
  | string hs => exact .string (hstring htext hs)

/-- What is plain is written in the strict notation. -/
theorem plainGrammar_extends : Grammar.Extends (fun _ => True) plainGrammar grammar :=
  extends_grammarOf (fun _ _ _ => ⟨trivial, trivial⟩) (fun _ _ _ => .inl) fun _ _ _ => trivial

/-- What is plain is written as a literal. -/
theorem plainGrammar_extends_literal :
    Grammar.Extends (fun _ => True) plainGrammar (Literal.grammar IsHexQuad) := by
  have hstring : ∀ {text s}, (stringRules (IsCommonEscape IsHexQuad)).IsString ['"'] text s →
      (Literal.stringRules IsHexQuad).IsString Literal.quotes text s := by
    intro text s hstring
    refine hstring.mono (P := fun _ => True) (fun _ _ _ => ⟨trivial, trivial⟩)
      (fun _ _ => trivial) ?_ (by simp [Literal.quotes]) trivial
    exact fun _ _ _ => Literal.IsEscape.common
  refine ⟨fun _ _ _ => ⟨trivial, trivial⟩, isBlank_of_isBlank, fun _ hscalar => ?_,
    fun _ => hstring, by simp [plainGrammar, grammarOf]⟩
  cases hscalar with
  | word hmem =>
    have hall : words ⊆ Literal.words := by decide
    exact .word (hall hmem)
  | number ht _ hzero hx =>
    cases hx with
    | minusZero => contradiction
    | other _ hdenotes => exact .number ht hdenotes
  | string hs => exact .string (hstring hs)

/-- A hexadecimal digit is less than sixteen, and two characters stand for thirteen. -/
theorem hexValue?_spec {c : Char} {n : Nat} (h : hexValue? c = some n) :
    n < 16 ∧ (n = 13 → c = 'd' ∨ c = 'D') := by
  have hc : c.isAlphanum := by
    rw [Token.isAlphanum_iff]
    unfold hexValue? at h
    split at h
    · rename_i hdigit
      exact .inr hdigit
    · split at h
      · rename_i hlower
        exact .inl (.inr ⟨hlower.1, Char.le_trans hlower.2 (by decide)⟩)
      · split at h
        · rename_i hupper
          exact .inl (.inl ⟨hupper.1, Char.le_trans hupper.2 (by decide)⟩)
        · contradiction
  exact Token.forall_alphanum
    (p := fun c => ∀ n ∈ hexValue? c, n < 16 ∧ (n = 13 → c = 'd' ∨ c = 'D'))
    (by decide) hc n h

/-- The numbers of surrogates start with one digit. -/
theorem exists_head_of_isSurrogate {digits : List Char} {n : Nat} (h : IsHexQuad digits n)
    (hn : IsSurrogate n) : ∃ cs, digits = 'd' :: cs ∨ digits = 'D' :: cs := by
  obtain ⟨hlength, hhex⟩ := h
  match digits, hlength with
  | [a, b, c, d], _ =>
    obtain ⟨i, j, k, ⟨hi, hj, hk⟩, l, hl, rfl⟩ : ∃ i j k,
        (hexValue? a = some i ∧ hexValue? b = some j ∧ hexValue? c = some k) ∧
          ∃ l, hexValue? d = some l ∧ 16 * (16 * (16 * i + j) + k) + l = n := by
      simpa [natOfHex?, Option.bind_eq_some_iff] using hhex
    have hi' := hexValue?_spec hi
    have hj' := (hexValue?_spec hj).1
    have hk' := (hexValue?_spec hk).1
    have hl' := (hexValue?_spec hl).1
    unfold IsSurrogate at hn
    refine ⟨[b, c, d], (hi'.2 (by omega)).imp ?_ ?_⟩ <;> rintro rfl <;> rfl

/-- The texts that stand out where a document may not be plain: an escape with the first
digit of surrogates, and a minus sign with a zero. -/
def suspects : List (List Char) :=
  [['\\', 'u', 'd'], ['\\', 'u', 'D'], ['-', '0']]

/-- A document in which nothing stands out is plain. -/
theorem isPlain_of_infix {text : String} {v : Json} (h : Json.ofDocument? text = some v)
    (hsuspects : ∀ suspect ∈ suspects, ¬ suspect <:+: text.toList) : IsPlain text := by
  have hP : PartClosed fun cs => ∀ suspect ∈ suspects, ¬ suspect <:+: cs :=
    fun front back hboth =>
      ⟨fun s hs hfront => hboth s hs (hfront.trans (List.prefix_append front back).isInfix),
        fun s hs hback => hboth s hs (hback.trans (List.suffix_append front back).isInfix)⟩
  refine ⟨v, (Json.ofDocument?_eq_some_iff.mp h).mono (extends_grammarOf hP ?_ ?_) hsuspects
    (.inr rfl)⟩
  · rintro text meaning hfree (hcommon | hpair)
    · exact hcommon
    · rcases hpair with ⟨hquad, hhigh, -, -⟩
      have hsurrogate := (isSurrogate_iff _).mp (Bool.or_eq_true_iff.mpr (.inl hhigh))
      rcases exists_head_of_isSurrogate hquad hsurrogate with ⟨cs, rfl | rfl⟩
      · exact absurd (List.prefix_append ['\\', 'u', 'd'] _).isInfix (hfree _ (by decide))
      · exact absurd (List.prefix_append ['\\', 'u', 'D'] _).isInfix (hfree _ (by decide))
  · intro t hfree _ hzero
    rw [NumeralText.IsMinusZero] at hzero
    rw [hzero] at hfree
    exact hfree ['-', '0'] (by decide) (List.infix_refl _)

end Document

/-- A document in which no escape stands for half of a surrogate pair and no numeral is `-0`
is read as a literal with the same value. -/
theorem Literal.parse?_of_ofDocument? {text : String} {v : Json}
    (h : Json.ofDocument? text = some v) (hplain : Document.IsPlain text) :
    Literal.parse? text = some v := by
  rcases hplain with ⟨value, hderives⟩
  obtain rfl : value = v := by
    have hread : Json.ofDocument? text = some value := Json.ofDocument?_eq_some_iff.mpr
      (hderives.mono Document.plainGrammar_extends trivial (.inr rfl))
    exact Option.some.inj (hread.symm.trans h)
  exact Literal.parse?_of_denotes
    (hderives.mono Document.plainGrammar_extends_literal trivial (.inl rfl))

/-- A document with blanks, escapes, a repeated name and numbers around the range of 64
bits. -/
def Document.nestedText : String :=
  " \x7b \"k\" : -7,\n" ++
    "\"\\u00e9\\n\\\"'\" : \x7b\"a\": null, \"b\": [[], \x7b\x7d], \"a\": true\x7d,\t" ++
    "\"k\":[ -9223372036854775808, 18446744073709551615, 18446744073709551616, 1.0e-1 ] \x7d "

/-- The value of the document. -/
def Document.nestedValue : Json :=
  .object [
    ("k", .array [.number (.integer (-9223372036854775808)),
      .number (.integer 18446744073709551615),
      .number (.float ⟨false, 4503599627370496, 1086, by decide, by decide, by decide⟩),
      .number (.float ⟨false, 7205759403792794, 1018, by decide, by decide, by decide⟩)]),
    ("\u00e9\n\"'", .object [("a", .bool true), ("b", .array [.array [], .object []])])]

/-- A document with blanks, escapes and a repeated name is read as a literal. -/
theorem Literal.parse?_nestedText :
    Json.ofDocument? Document.nestedText = some Document.nestedValue ∧
      Document.IsPlain Document.nestedText ∧
      Literal.parse? Document.nestedText = some Document.nestedValue := by
  have hread : Json.ofDocument? Document.nestedText = some Document.nestedValue := by
    decide +kernel
  have hplain : Document.IsPlain Document.nestedText :=
    Document.isPlain_of_infix hread (by decide +kernel)
  exact ⟨hread, hplain, Literal.parse?_of_ofDocument? hread hplain⟩

end Reshape
