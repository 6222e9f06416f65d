import Mathlib.Data.List.Chain
import Mathlib.Data.List.TakeWhile
import Reshape.Pipeline
import Reshape.Proofs.Computations

/-!
# Layouts of expressions

A layout of a text is a way to read it as tokens with blanks around them.  It is well
formed when its tokens are and two words in a row are kept apart by a blank.  Nothing
else is asked, so layouts are the grammar of expressions, written without the scanner.

The scanner is tied to layouts by one equation: behind a well-formed layout it goes on
as if it had just started, unless a word would run on.  Acceptance, uniqueness and the
errors follow from it.

Main results:

- Definition `Layout.WellFormed`: the grammar of expressions.
- Theorem `Layout.scan_text_append`: the tokens of a layout and of what stands behind it.
- Theorem `exists_layout_of_scan`: every scanned text has a layout.
- Theorem `Layout.ext_of_text_eq`: a text has at most one layout.
- Theorem `isToken_of_scan`: the texts that are scanned as one token.
- Theorem `scan_exact`: the scanner accepts the texts with a layout, and the segments
  hold every token but the separators.
-/

namespace Reshape

/-! ## Classes of characters -/

namespace Text

/-- A code point of a class lies in one of its ranges. -/
theorem CodeRanges.exists_range_of_contains {ranges : CodeRanges} {n : Nat}
    (h : ranges.contains n = true) : ∃ range ∈ ranges, range.1 ≤ n ∧ n ≤ range.2 := by
  induction ranges with
  | nil => simp [CodeRanges.contains] at h
  | cons range ranges ih =>
    simp only [CodeRanges.contains, Bool.and_eq_true, Bool.or_eq_true, decide_eq_true_eq] at h
    rcases h with ⟨hfirst, hlast | hrest⟩
    · exact ⟨range, List.mem_cons_self, hfirst, hlast⟩
    · rcases ih hrest with ⟨other, hmem, hin⟩
      exact ⟨other, List.mem_cons_of_mem _ hmem, hin⟩

/-- Classes whose ranges lie apart share no code point. -/
theorem CodeRanges.contains_eq_false_of_apart {left right : CodeRanges}
    (hapart : ∀ a ∈ left, ∀ b ∈ right, a.2 < b.1 ∨ b.2 < a.1) {n : Nat}
    (h : left.contains n = true) : right.contains n = false := by
  rcases exists_range_of_contains h with ⟨a, ha, ha₁, ha₂⟩
  rw [Bool.eq_false_iff]
  intro hright
  rcases exists_range_of_contains hright with ⟨b, hb, hb₁, hb₂⟩
  have := hapart a ha b hb
  omega

/-- No blank is a letter or a number. -/
theorem isAlphanumeric_eq_false_of_isBlank {c : Char} (h : isBlank c) :
    isAlphanumeric c = false := by
  have hletter : ∀ a ∈ blankRanges, ∀ b ∈ alphabeticRanges, a.2 < b.1 ∨ b.2 < a.1 := by
    decide +kernel
  have hnumber : ∀ a ∈ blankRanges, ∀ b ∈ numericRanges, a.2 < b.1 ∨ b.2 < a.1 := by
    decide +kernel
  simp [isAlphanumeric, CodeRanges.contains_eq_false_of_apart hletter h,
    CodeRanges.contains_eq_false_of_apart hnumber h]

end Text

namespace Token

/-- No blank is a character of words. -/
theorem isWordChar_eq_false_of_isBlank {c : Char} (h : Text.isBlank c) :
    isWordChar c = false := by
  have hoperator : "_.+-*=<>!".toList.all (!Text.isBlank ·) := by decide
  have hc : "_.+-*=<>!".toList.contains c = false := by
    rw [Bool.eq_false_iff]
    intro hmem
    have hblank := List.all_eq_true.mp hoperator c (List.contains_iff_mem.mp hmem)
    simp [h] at hblank
  rw [isWordChar, Text.isAlphanumeric_eq_false_of_isBlank h, hc]
  rfl

/-- No character of words is a blank. -/
theorem isBlank_eq_false_of_isWordChar {c : Char} (h : isWordChar c) :
    Text.isBlank c = false := by
  rw [Bool.eq_false_iff]
  intro hblank
  rw [isWordChar_eq_false_of_isBlank hblank] at h
  contradiction

/-- A quote is one of two characters. -/
theorem isQuote_iff {c : Char} : isQuote c ↔ c = '\'' ∨ c = '"' := by
  simp [isQuote]

/-- Quotes are neither blanks nor characters of words. -/
theorem isBlank_isWordChar_of_isQuote {c : Char} (h : isQuote c) :
    Text.isBlank c = false ∧ isWordChar c = false := by
  rcases isQuote_iff.mp h with rfl | rfl <;> decide

instance : DecidablePred WellFormed
  | word cs => decidable_of_iff (cs ≠ [] ∧ cs.all isWordChar) (by simp [WellFormed])
  | quoted _ _ => inferInstanceAs (Decidable (_ ∧ _))
  | symbol _ => inferInstanceAs (Decidable (_ ∧ _))

/-! ## Single steps of the scanner -/

/-- Nothing is scanned in the empty text. -/
@[simp]
theorem scan_nil : scan [] = .ok [] := by
  simp [scan]

/-- A blank is passed over. -/
theorem scan_blank {c : Char} (rest : List Char) (h : Text.isBlank c) :
    scan (c :: rest) = scan rest := by
  simp [scan, h]

/-- Blanks are passed over. -/
theorem scan_blanks {blanks : List Char} (rest : List Char)
    (h : ∀ c ∈ blanks, Text.isBlank c) : scan (blanks ++ rest) = scan rest := by
  induction blanks with
  | nil => rfl
  | cons c blanks ih =>
    rw [List.cons_append, scan_blank _ (h c List.mem_cons_self)]
    exact ih fun d hd => h d (List.mem_cons_of_mem c hd)

/-- A run of characters of a class ends where a character is not in the class. -/
theorem takeWhile_dropWhile_run {p : Char → Bool} {run rest : List Char}
    (hrun : ∀ c ∈ run, p c) (hrest : ∀ c ∈ rest.head?, p c = false) :
    (run ++ rest).takeWhile p = run ∧ (run ++ rest).dropWhile p = rest := by
  rw [List.takeWhile_append_of_pos hrun, List.dropWhile_append_of_pos hrun]
  cases rest with
  | nil => simp
  | cons c rest => simp [hrest c rfl]

/-- Words are the tokens that can run on. -/
def isWord : Token → Bool
  | word _ => true
  | _ => false

/-- A text at whose start no word runs on. -/
def StartsApart (cs : List Char) : Prop :=
  ∀ c ∈ cs.head?, isWordChar c = false

/-- The first character of a token is no blank, and tells whether it is a word. -/
theorem exists_head_of_wellFormed {t : Token} (h : t.WellFormed) :
    ∃ c cs, t.characters = c :: cs ∧ Text.isBlank c = false ∧ isWordChar c = t.isWord := by
  cases t with
  | word cs =>
    rcases h with ⟨hne, hword⟩
    rcases List.exists_cons_of_ne_nil hne with ⟨c, cs, rfl⟩
    have hc := hword c List.mem_cons_self
    exact ⟨c, cs, rfl, isBlank_eq_false_of_isWordChar hc, hc⟩
  | quoted quote body =>
    rcases isBlank_isWordChar_of_isQuote h.1 with ⟨hblank, hword⟩
    exact ⟨quote, body ++ [quote], rfl, hblank, hword⟩
  | symbol c =>
    rcases h with ⟨hblank, hword, -⟩
    exact ⟨c, [], rfl, by simpa using hblank, by simpa [isWord] using hword⟩

/-- A token at the front of a text is scanned, unless it is a word that runs on. -/
theorem scan_token {t : Token} {rest : List Char} (ht : t.WellFormed)
    (hapart : t.isWord → StartsApart rest) :
    scan (t.characters ++ rest) = (scan rest).map (t :: ·) := by
  cases t with
  | word cs =>
    rcases ht with ⟨hne, hword⟩
    rcases List.exists_cons_of_ne_nil hne with ⟨c, cs, rfl⟩
    have hc : isWordChar c := hword c List.mem_cons_self
    obtain ⟨htake, hdrop⟩ := takeWhile_dropWhile_run
      (fun d hd => hword d (List.mem_cons_of_mem c hd)) (hapart rfl)
    rw [characters, List.cons_append, scan]
    simp [isBlank_eq_false_of_isWordChar hc, hc, htake, hdrop]
  | quoted quote body =>
    rcases ht with ⟨hquote, hbody⟩
    rcases isBlank_isWordChar_of_isQuote hquote with ⟨hblank, hword⟩
    have hrun : ∀ d ∈ body, (d != quote) = true :=
      fun d hd => bne_iff_ne.mpr (ne_of_mem_of_not_mem hd hbody)
    have hclose : ∀ d ∈ (quote :: rest).head?, (d != quote) = false := by simp
    rcases takeWhile_dropWhile_run hrun hclose with ⟨htake, hdrop⟩
    have hcs : (quoted quote body).characters ++ rest = quote :: (body ++ quote :: rest) := by
      simp [characters]
    rw [hcs, scan]
    simp only [hblank, hword, hquote, Bool.false_eq_true, if_false, if_true, htake]
    split
    · rename_i h
      simp [hdrop] at h
    · rename_i h
      rw [hdrop] at h
      cases h
      rfl
  | symbol c =>
    rcases ht with ⟨hblank, hword, hquote⟩
    simp only [Bool.not_eq_true'] at hblank hword hquote
    simp [characters, scan, hblank, hword, hquote]

end Token

/-! ## Layouts -/

/-- A text as tokens with blanks around them: the blanks in front, and each token with the
blanks behind it. -/
structure Layout where
  lead : List Char
  parts : List (Token × List Char)

namespace Layout

/-- The text that is laid out. -/
def text (l : Layout) : List Char :=
  l.lead ++ l.parts.flatMap fun part => part.1.characters ++ part.2

/-- The tokens of a layout. -/
def tokens (l : Layout) : List Token :=
  l.parts.map Prod.fst

/-- Tokens are well formed, blanks are blank, and a word is kept apart from a word behind
it. -/
structure WellFormed (l : Layout) : Prop where
  lead_blank : ∀ c ∈ l.lead, Text.isBlank c
  token_wellFormed : ∀ part ∈ l.parts, part.1.WellFormed
  gap_blank : ∀ part ∈ l.parts, ∀ c ∈ part.2, Text.isBlank c
  words_apart : l.parts.IsChain fun a b => a.1.isWord → b.1.isWord → a.2 ≠ []

/-- The conditions on a layout, as tests on its blanks and tokens. -/
theorem wellFormed_iff (l : Layout) :
    l.WellFormed ↔ l.lead.all Text.isBlank ∧ (l.parts.all fun part => part.1.WellFormed) ∧
      (l.parts.all fun part => part.2.all Text.isBlank) ∧
      l.parts.IsChain fun a b => a.1.isWord → b.1.isWord → a.2 ≠ [] := by
  simp only [List.all_eq_true, decide_eq_true_eq]
  constructor
  · rintro ⟨hlead, htoken, hgap, hchain⟩
    exact ⟨hlead, htoken, hgap, hchain⟩
  · rintro ⟨hlead, htoken, hgap, hchain⟩
    exact ⟨hlead, htoken, hgap, hchain⟩

instance : DecidablePred WellFormed := fun l =>
  decidable_of_iff _ l.wellFormed_iff.symm

/-- Behind the first token stands a layout whose first blanks are the gap of that token. -/
theorem text_cons (lead : List Char) (t : Token) (gap : List Char)
    (parts : List (Token × List Char)) :
    text ⟨lead, (t, gap) :: parts⟩ = lead ++ (t.characters ++ text ⟨gap, parts⟩) := by
  simp [text]

/-- The layout behind the first token is well formed when the whole one is. -/
theorem wellFormed_cons_iff {lead : List Char} {t : Token} {gap : List Char}
    {parts : List (Token × List Char)} :
    WellFormed ⟨lead, (t, gap) :: parts⟩ ↔
      (∀ c ∈ lead, Text.isBlank c) ∧ t.WellFormed ∧
        (∀ part ∈ parts.head?, t.isWord → part.1.isWord → gap ≠ []) ∧
          WellFormed ⟨gap, parts⟩ := by
  constructor
  · rintro ⟨hlead, htoken, hgap, hchain⟩
    refine ⟨hlead, htoken _ List.mem_cons_self, ?_, hgap _ List.mem_cons_self, ?_, ?_, ?_⟩
    · exact (List.isChain_cons.mp hchain).1
    · exact fun part h => htoken part (List.mem_cons_of_mem _ h)
    · exact fun part h => hgap part (List.mem_cons_of_mem _ h)
    · exact (List.isChain_cons.mp hchain).2
  · rintro ⟨hlead, ht, hapart, hgap, htokens, hgaps, hchain⟩
    refine ⟨hlead, ?_, ?_, List.isChain_cons.mpr ⟨hapart, hchain⟩⟩
    · exact List.forall_mem_cons.mpr ⟨ht, htokens⟩
    · exact List.forall_mem_cons.mpr ⟨hgap, hgaps⟩

/-- What stands behind a gap does not run on from the word before the gap. -/
theorem startsApart_text_append {gap : List Char} {parts : List (Token × List Char)}
    {rest : List Char} (h : WellFormed ⟨gap, parts⟩)
    (hapart : ∀ part ∈ parts.head?, part.1.isWord → gap ≠ []) (hrest : Token.StartsApart rest) :
    Token.StartsApart (text ⟨gap, parts⟩ ++ rest) := by
  cases gap with
  | cons c gap =>
    intro d hd
    obtain rfl : c = d := by simpa [text] using hd
    exact Token.isWordChar_eq_false_of_isBlank (h.lead_blank c List.mem_cons_self)
  | nil =>
    cases parts with
    | nil => exact hrest
    | cons part parts =>
      obtain ⟨c, cs, hcs, -, hc⟩ :=
        Token.exists_head_of_wellFormed (h.token_wellFormed part List.mem_cons_self)
      have hword : part.1.isWord = false := by
        rw [Bool.eq_false_iff]
        exact fun hword => hapart part rfl hword rfl
      intro d hd
      obtain rfl : c = d := by simpa [text, hcs] using hd
      rw [hc, hword]

/-- Behind a well-formed layout the scanner goes on as if it had just started. -/
theorem scan_text_append {l : Layout} (h : l.WellFormed) {rest : List Char}
    (hrest : Token.StartsApart rest) :
    Token.scan (l.text ++ rest) = (Token.scan rest).map (l.tokens ++ ·) := by
  rcases l with ⟨lead, parts⟩
  induction parts generalizing lead with
  | nil =>
    have hscan : Token.scan (lead ++ rest) = Token.scan rest := Token.scan_blanks rest h.lead_blank
    simp only [text, tokens, List.flatMap_nil, List.append_nil, List.map_nil, List.nil_append]
    rw [hscan]
    cases Token.scan rest <;> rfl
  | cons part parts ih =>
    rcases part with ⟨t, gap⟩
    rcases wellFormed_cons_iff.mp h with ⟨hlead, ht, hapart, htail⟩
    have hstart : t.isWord → Token.StartsApart (text ⟨gap, parts⟩ ++ rest) := fun hword =>
      startsApart_text_append htail (fun part hpart => hapart part hpart hword) hrest
    rw [text_cons, List.append_assoc, List.append_assoc, Token.scan_blanks _ hlead,
      Token.scan_token ht hstart, ih gap htail]
    cases Token.scan rest <;> rfl

/-- The tokens of a well-formed layout are those of its text. -/
theorem scan_text {l : Layout} (h : l.WellFormed) : Token.scan l.text = .ok l.tokens := by
  have hrest : Token.StartsApart [] := by simp [Token.StartsApart]
  have hscan := scan_text_append h hrest
  simpa [Except.map] using hscan

/-- Two well-formed layouts of one text with the same tokens have the same blanks. -/
theorem parts_eq_of_text_eq {lead lead' : List Char} {parts parts' : List (Token × List Char)}
    (h : WellFormed ⟨lead, parts⟩) (h' : WellFormed ⟨lead', parts'⟩)
    (htokens : parts.map Prod.fst = parts'.map Prod.fst)
    (htext : text ⟨lead, parts⟩ = text ⟨lead', parts'⟩) : lead = lead' ∧ parts = parts' := by
  induction parts generalizing lead lead' parts' with
  | nil =>
    obtain rfl : parts' = [] := by simpa using htokens.symm
    exact ⟨by simpa [text] using htext, rfl⟩
  | cons part parts ih =>
    cases parts' with
    | nil => simp at htokens
    | cons part' parts' =>
      rcases part with ⟨t, gap⟩
      rcases part' with ⟨t', gap'⟩
      obtain ⟨rfl, htail_tokens⟩ : t = t' ∧ parts.map Prod.fst = parts'.map Prod.fst := by
        simpa using htokens
      rcases wellFormed_cons_iff.mp h with ⟨hlead, ht, -, htail⟩
      rcases wellFormed_cons_iff.mp h' with ⟨hlead', -, -, htail'⟩
      rw [text_cons, text_cons] at htext
      rcases Token.exists_head_of_wellFormed ht with ⟨c, cs, hcs, hc, -⟩
      -- The blanks in front end where the token starts, in both layouts alike.
      have hhead : ∀ more, ∀ d ∈ (t.characters ++ more).head?, Text.isBlank d = false := by
        intro more d hd
        obtain rfl : c = d := by simpa [hcs] using hd
        exact hc
      rcases Token.takeWhile_dropWhile_run hlead (hhead (text ⟨gap, parts⟩)) with ⟨htake, hdrop⟩
      obtain ⟨htake', hdrop'⟩ := Token.takeWhile_dropWhile_run hlead' (hhead (text ⟨gap', parts'⟩))
      have hleads : lead = lead' := by rw [← htake, htext, htake']
      have hrest : t.characters ++ text ⟨gap, parts⟩ = t.characters ++ text ⟨gap', parts'⟩ := by
        rw [← hdrop, htext, hdrop']
      rcases ih htail htail' htail_tokens (List.append_cancel_left hrest) with ⟨rfl, rfl⟩
      exact ⟨hleads, rfl⟩

/-- A text has at most one well-formed layout. -/
theorem ext_of_text_eq {l l' : Layout} (h : l.WellFormed) (h' : l'.WellFormed)
    (htext : l.text = l'.text) : l = l' := by
  have htokens : l.tokens = l'.tokens := by
    have hscan := scan_text h
    rw [htext, scan_text h'] at hscan
    exact (Except.ok.inj hscan).symm
  rcases l with ⟨lead, parts⟩
  rcases l' with ⟨lead', parts'⟩
  rcases parts_eq_of_text_eq h h' htokens htext with ⟨rfl, rfl⟩
  rfl

end Layout

/-- A token in front of a text with a layout has a layout together with it, unless it is a
word that runs on. -/
theorem exists_layout_cons {t : Token} {cs : List Char} {ts : List Token} (ht : t.WellFormed)
    (hapart : t.isWord → Token.StartsApart cs)
    (h : ∃ l : Layout, l.WellFormed ∧ l.text = cs ∧ l.tokens = ts) :
    ∃ l : Layout, l.WellFormed ∧ l.text = t.characters ++ cs ∧ l.tokens = t :: ts := by
  rcases h with ⟨⟨lead, parts⟩, hl, rfl, rfl⟩
  refine ⟨⟨[], (t, lead) :: parts⟩, Layout.wellFormed_cons_iff.mpr ⟨by simp, ht, ?_, hl⟩,
    Layout.text_cons _ _ _ _, rfl⟩
  intro part hpart hword hpart_word hlead
  subst hlead
  obtain ⟨c, cs, hcs, -, hc⟩ :=
    Token.exists_head_of_wellFormed (hl.token_wellFormed part (List.mem_of_mem_head? hpart))
  obtain ⟨others, rfl⟩ : ∃ others, parts = part :: others := by
    exact List.head?_eq_some_iff.mp hpart
  have := hapart hword c (by simp [Layout.text, hcs])
  rw [hc, hpart_word] at this
  contradiction

/-- Every text that is scanned has a well-formed layout with the scanned tokens. -/
theorem exists_layout_of_scan {cs : List Char} {ts : List Token} (h : Token.scan cs = .ok ts) :
    ∃ l : Layout, l.WellFormed ∧ l.text = cs ∧ l.tokens = ts := by
  fun_induction Token.scan cs generalizing ts with
  | case1 =>
    obtain rfl : [] = ts := by simpa using h
    exact ⟨⟨[], []⟩, ⟨by simp, by simp, by simp, .nil⟩, rfl, rfl⟩
  | case2 c rest hblank ih =>
    rcases ih h with ⟨⟨lead, parts⟩, hl, rfl, rfl⟩
    refine ⟨⟨c :: lead, parts⟩, ⟨?_, hl.token_wellFormed, hl.gap_blank, hl.words_apart⟩, rfl, rfl⟩
    exact List.forall_mem_cons.mpr ⟨hblank, hl.lead_blank⟩
  | case3 c rest hblank hword ih =>
    rcases exists_of_map_eq_ok h with ⟨ts, hts, rfl⟩
    have ht : (Token.word (c :: rest.takeWhile Token.isWordChar)).WellFormed := by
      refine ⟨List.cons_ne_nil _ _, List.forall_mem_cons.mpr ⟨hword, fun d hd => ?_⟩⟩
      exact List.mem_takeWhile_imp hd
    have hapart : Token.StartsApart (rest.dropWhile Token.isWordChar) := by
      intro d hd
      have := List.head?_dropWhile_not Token.isWordChar rest
      simp_all
    rcases exists_layout_cons ht (fun _ => hapart) (ih hts) with ⟨l, hl, htext, htokens⟩
    refine ⟨l, hl, ?_, htokens⟩
    rw [htext, Token.characters, List.cons_append, List.takeWhile_append_dropWhile]
  | case4 c rest hblank hword hquote hdrop => simp at h
  | case5 c rest hblank hword hquote d after hdrop ih =>
    rcases exists_of_map_eq_ok h with ⟨ts, hts, rfl⟩
    have ht : (Token.quoted c (rest.takeWhile (· != c))).WellFormed := by
      refine ⟨hquote, fun hmem => ?_⟩
      simpa using List.mem_takeWhile_imp hmem
    obtain rfl : d = c := by
      have := List.head?_dropWhile_not (· != c) rest
      simpa [hdrop] using this
    rcases exists_layout_cons ht (by simp [Token.isWord]) (ih hts) with ⟨l, hl, htext, htokens⟩
    refine ⟨l, hl, ?_, htokens⟩
    have hrest : rest.takeWhile (· != d) ++ d :: after = rest := by
      rw [← hdrop, List.takeWhile_append_dropWhile]
    rw [htext, Token.characters, List.cons_append, List.cons_append, List.append_assoc,
      List.singleton_append, hrest]
  | case6 c rest hblank hword hquote ih =>
    rcases exists_of_map_eq_ok h with ⟨ts, hts, rfl⟩
    have ht : (Token.symbol c).WellFormed := by
      simp_all [Token.WellFormed]
    exact exists_layout_cons ht (by simp [Token.isWord]) (ih hts)

/-! ## Texts that are one token -/

/-- A text that is one token. -/
def IsToken (text : String) : Prop :=
  ∃ token : Token, token.WellFormed ∧ token.text = text

/-- A text with no blanks around it. -/
def Trimmed (cs : List Char) : Prop :=
  ∀ c, c ∈ cs.head? ∨ c ∈ cs.getLast? → Text.isBlank c = false

/-- A word is written as its characters. -/
@[simp]
theorem Token.text_word (text : String) : (word text.toList).text = text :=
  String.ofList_toList

/-- A text that is one token is scanned as that token. -/
theorem Token.scan_of_text_eq {t : Token} (h : t.WellFormed) {text : String}
    (htext : t.text = text) : Token.scan text.toList = .ok [t] := by
  subst htext
  have hapart : t.isWord → StartsApart [] := fun _ => by simp [StartsApart]
  have hscan := scan_token h hapart
  simpa [Token.text, Except.map] using hscan

namespace Layout

/-- A layout up to its last token, that token, and the last blanks. -/
theorem text_concat (lead : List Char) (parts : List (Token × List Char)) (t : Token)
    (gap : List Char) :
    text ⟨lead, parts ++ [(t, gap)]⟩ = text ⟨lead, parts⟩ ++ t.characters ++ gap := by
  simp [text]

/-- Without blanks around the text, nothing stands behind the last token. -/
theorem last_gap_eq_nil {lead gap : List Char} {parts : List (Token × List Char)} {t : Token}
    (h : WellFormed ⟨lead, parts ++ [(t, gap)]⟩)
    (htrimmed : Trimmed (text ⟨lead, parts ++ [(t, gap)]⟩)) : gap = [] := by
  by_contra hne
  obtain ⟨front, c, rfl⟩ : ∃ front c, gap = front ++ [c] :=
    ⟨gap.dropLast, gap.getLast hne, (List.dropLast_append_getLast hne).symm⟩
  have hlast : c ∈ (text ⟨lead, parts ++ [(t, front ++ [c])]⟩).getLast? := by
    rw [text_concat]
    simp
  have hblank := h.gap_blank (t, front ++ [c]) (by simp) c (by simp)
  rw [htrimmed c (.inr hlast)] at hblank
  contradiction

/-- Without blanks around the text, nothing stands in front of the first token. -/
theorem lead_eq_nil {l : Layout} (h : l.WellFormed) (htrimmed : Trimmed l.text) :
    l.lead = [] := by
  by_contra hne
  rcases List.exists_cons_of_ne_nil hne with ⟨c, lead, hlead⟩
  have hhead : c ∈ l.text.head? := by
    simp [text, hlead]
  have hblank := h.lead_blank c (by simp [hlead])
  rw [htrimmed c (.inl hhead)] at hblank
  contradiction

/-- A text holds the characters of its tokens. -/
theorem mem_text {l : Layout} {t : Token} {c : Char} (ht : t ∈ l.tokens)
    (hc : c ∈ t.characters) : c ∈ l.text := by
  rcases List.mem_map.mp ht with ⟨part, hpart, rfl⟩
  apply List.mem_append_right
  exact List.mem_flatMap.mpr ⟨part, hpart, List.mem_append_left _ hc⟩

end Layout

/-- A text without blanks around it that is scanned as one token is that token. -/
theorem isToken_of_scan {text : String} {t : Token} (htrimmed : Trimmed text.toList)
    (h : Token.scan text.toList = .ok [t]) : IsToken text := by
  rcases exists_layout_of_scan h with ⟨⟨lead, parts⟩, hl, htext, htokens⟩
  rw [← htext] at htrimmed
  obtain ⟨gap, rfl⟩ : ∃ gap, parts = [(t, gap)] := by
    rcases List.map_eq_singleton_iff.mp htokens with ⟨⟨t', gap⟩, rfl, rfl⟩
    exact ⟨gap, rfl⟩
  have hlead : lead = [] := Layout.lead_eq_nil hl htrimmed
  rw [← List.nil_append [(t, gap)]] at hl htrimmed
  have hgap : gap = [] := Layout.last_gap_eq_nil hl htrimmed
  subst hlead hgap
  refine ⟨t, hl.token_wellFormed (t, []) (by simp), ?_⟩
  have hcharacters : t.characters = text.toList := by
    rw [← htext]
    simp [Layout.text]
  rw [Token.text, hcharacters, String.ofList_toList]

/-! ## Segments -/

namespace Segment

/-- The segments are the stretches between separators. -/
theorem ofTokens_eq_splitOn (ts : List Token) : ofTokens ts = ts.splitOn separator := by
  induction ts with
  | nil => rfl
  | cons t ts ih => simp [ofTokens, List.splitOn_cons_eq_if_modifyHead, ih]

/-- The tokens of segments are the tokens of the whole but the separators. -/
theorem mem_and_ne_of_mem_ofTokens {ts : List Token} {segment : Segment} {t : Token}
    (h : segment ∈ ofTokens ts) (ht : t ∈ segment) : t ∈ ts ∧ t ≠ separator := by
  induction ts generalizing segment with
  | nil =>
    obtain rfl : segment = [] := by simpa [ofTokens] using h
    cases ht
  | cons first ts ih =>
    rw [ofTokens] at h
    by_cases hfirst : first = separator
    · rw [if_pos hfirst] at h
      rcases List.mem_cons.mp h with rfl | h
      · cases ht
      · exact ⟨List.mem_cons_of_mem _ (ih h ht).1, (ih h ht).2⟩
    · rw [if_neg hfirst] at h
      obtain ⟨head, others, hsegments⟩ := List.exists_cons_of_ne_nil
        (ofTokens_eq_splitOn ts ▸ List.splitOn_ne_nil separator ts)
      rw [hsegments] at h ih
      rcases List.mem_cons.mp h with rfl | h
      · rcases List.mem_cons.mp ht with rfl | ht
        · exact ⟨List.mem_cons_self, hfirst⟩
        · have hmem := ih List.mem_cons_self ht
          exact ⟨List.mem_cons_of_mem _ hmem.1, hmem.2⟩
      · have hmem := ih (List.mem_cons_of_mem _ h) ht
        exact ⟨List.mem_cons_of_mem _ hmem.1, hmem.2⟩

/-- No segment holds a separator. -/
theorem separator_notMem_of_mem_ofTokens {ts : List Token} {segment : Segment}
    (h : segment ∈ ofTokens ts) : separator ∉ segment :=
  fun hmem => (mem_and_ne_of_mem_ofTokens h hmem).2 rfl

/-- A token with another text than the separator is none. -/
theorem separator_notMem_singleton {t : Token} (h : t.text ≠ "$") : separator ∉ [t] := by
  intro hmem
  obtain rfl : separator = t := by simpa using hmem
  exact h rfl

/-- The last segment stands at the end of the tokens. -/
theorem exists_append_of_splitOn {ts : List Token} {front : List Segment} {last : Segment}
    (h : ts.splitOn separator = front ++ [last]) : ∃ init, ts = init ++ last := by
  have hjoin : ∀ front : List Segment,
      ∃ init, [separator].intercalate (front ++ [last]) = init ++ last := by
    intro front
    induction front with
    | nil => exact ⟨[], by simp⟩
    | cons first front ih =>
      rcases ih with ⟨init, hinit⟩
      refine ⟨first ++ [separator] ++ init, ?_⟩
      rw [List.cons_append, List.intercalate_cons_of_ne_nil (by simp), hinit]
      simp
  rcases hjoin front with ⟨init, hinit⟩
  rw [← h, List.intercalate_splitOn] at hinit
  exact ⟨init, hinit⟩

end Segment

/-! ## The grammar of expressions -/

/-- A text is scanned exactly when it has a well-formed layout, which is then the only one
and holds the scanned tokens.  The segments of an expression fail with its tokens; joined
by separators they give the tokens back, and none of them holds a separator. -/
theorem scan_exact (expression : String) :
    (∀ ts, Token.scan expression.toList = .ok ts ↔
      ∃ l : Layout, l.WellFormed ∧ l.text = expression.toList ∧ l.tokens = ts) ∧
    (∀ l l' : Layout, l.WellFormed → l'.WellFormed →
      l.text = expression.toList → l'.text = expression.toList → l = l') ∧
    ((∃ fault, Token.scan expression.toList = .error fault) ↔
      ¬ ∃ l : Layout, l.WellFormed ∧ l.text = expression.toList) ∧
    (∀ fault, Segment.scan expression = .error fault ↔
      Token.scan expression.toList = .error fault) ∧
    ∀ segments, Segment.scan expression = .ok segments →
      Token.scan expression.toList = .ok ([Segment.separator].intercalate segments) ∧
        ∀ segment ∈ segments, Segment.separator ∉ segment := by
  have hiff : ∀ ts, Token.scan expression.toList = .ok ts ↔
      ∃ l : Layout, l.WellFormed ∧ l.text = expression.toList ∧ l.tokens = ts := by
    intro ts
    constructor
    · exact exists_layout_of_scan
    · rintro ⟨l, hl, htext, rfl⟩
      rw [← htext, Layout.scan_text hl]
  refine ⟨hiff, fun l l' hl hl' h h' => Layout.ext_of_text_eq hl hl' (h.trans h'.symm), ?_, ?_, ?_⟩
  · constructor
    · rintro ⟨fault, hfault⟩ ⟨l, hl, htext⟩
      rw [← htext, Layout.scan_text hl] at hfault
      cases hfault
    · intro hnone
      cases hscan : Token.scan expression.toList with
      | error fault => exact ⟨fault, rfl⟩
      | ok ts =>
        rcases exists_layout_of_scan hscan with ⟨l, hl, htext, -⟩
        exact absurd ⟨l, hl, htext⟩ hnone
  · rw [Segment.scan]
    cases Token.scan expression.toList <;> simp [Except.map]
  · intro segments hsegments
    rcases exists_of_map_eq_ok hsegments with ⟨ts, hts, rfl⟩
    refine ⟨?_, fun segment => Segment.separator_notMem_of_mem_ofTokens⟩
    rw [hts, Segment.ofTokens_eq_splitOn, List.intercalate_splitOn]

end Reshape
