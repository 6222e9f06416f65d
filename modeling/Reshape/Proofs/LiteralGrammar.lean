import Reshape.Proofs.GrammarReader
import Reshape.Proofs.NumeralTexts

/-!
# The grammar of literals

A literal is a number, a word, a string in either kind of quotes, or an array or an object
of literals, with white space around its parts.  The grammar is stated without the reader,
for any notion of what the four characters behind `\u` stand for: four hexadecimal digits,
or what the reader takes for them.

The reader takes a plus sign for the first of the four digits.  Its language is the grammar
with that addition, and a text without such an escape is read as it should be.

Main results:

- Definition `Literal.grammar`: the grammar of literals.
- Definition `Literal.Denotes`: a text stands for a value.
- Theorem `Literal.dialect_follows`: the reader follows the grammar with signed escapes.
- Theorem `Literal.parse?_denotes`: the texts that are read, and the ones without a signed
  escape among them.
-/

namespace Reshape

/-! ## Characters -/

namespace Token

/-- The letters and digits of ASCII stand in three ranges. -/
theorem isAlphanum_iff (c : Char) :
    c.isAlphanum ↔ (('A' ≤ c ∧ c ≤ 'Z') ∨ ('a' ≤ c ∧ c ≤ 'z')) ∨ ('0' ≤ c ∧ c ≤ '9') := by
  have hupper : c.isUpper ↔ 'A' ≤ c ∧ c ≤ 'Z' := decide_eq_true_iff
  have hrange : ∀ low high : Char,
      (decide (c ≥ low) && decide (c ≤ high)) = true ↔ low ≤ c ∧ c ≤ high := by simp
  have hlower : c.isLower ↔ 'a' ≤ c ∧ c ≤ 'z' := hrange 'a' 'z'
  have hdigit : c.isDigit ↔ '0' ≤ c ∧ c ≤ '9' := hrange '0' '9'
  have halpha : c.isAlpha ↔ c.isUpper ∨ c.isLower := Bool.or_eq_true_iff
  rw [← hupper, ← hlower, ← hdigit, ← halpha]
  exact Bool.or_eq_true_iff

/-- What holds of all characters of ASCII holds of the letters and digits among them. -/
theorem forall_alphanum {p : Char → Prop} (h : ∀ n < 128, (Char.ofNat n).isAlphanum →
    p (Char.ofNat n)) {c : Char} (hc : c.isAlphanum) : p c := by
  have hascii : c.toNat < 128 := by
    have hle : ∀ d : Char, c ≤ d → c.toNat ≤ d.toNat := fun d hd => hd
    rcases (isAlphanum_iff c).mp hc with (⟨-, hc⟩ | ⟨-, hc⟩) | ⟨-, hc⟩
    · exact Nat.lt_of_le_of_lt hc (by decide)
    · exact Nat.lt_of_le_of_lt hc (by decide)
    · exact Nat.lt_of_le_of_lt hc (by decide)
  have hp := h c.toNat hascii
  rw [Char.ofNat_toNat] at hp
  exact hp hc

/-- The letters and digits of ASCII are characters of words. -/
theorem isWordChar_of_isAlphanum {c : Char} (h : c.isAlphanum) : isWordChar c :=
  forall_alphanum (p := fun c => isWordChar c) (by decide) h

/-- No mark is a character of words. -/
theorem isWordChar_mark : ∀ c ∈ marks, isWordChar c = false :=
  List.all_iff_forall_prop.mp (by decide)

/-- Where no word runs on, no letter and no numeral does. -/
theorem StartsApart.ends {cs : List Char} (h : StartsApart cs) :
    NumeralText.Ends cs ∧ ∀ c ∈ cs.head?, c.isAlpha = false := by
  have hword : ∀ c ∈ cs.head?, c.isAlphanum = false := by
    intro c hc
    rw [Bool.eq_false_iff]
    intro halpha
    have := h c hc
    rw [isWordChar_of_isAlphanum halpha] at this
    contradiction
  refine ⟨fun c hc => ⟨?_, ?_⟩, fun c hc => ?_⟩
  · exact (Bool.or_eq_false_iff.mp (hword c hc)).2
  · have hmarks : ∀ d ∈ ['.', 'e', 'E'], isWordChar d :=
      List.all_iff_forall_prop.mp (by decide +kernel)
    exact fun hmem => Bool.false_ne_true ((h c hc).symm.trans (hmarks c hmem))
  · exact (Bool.or_eq_false_iff.mp (hword c hc)).1

end Token

/-- A numeral starts with a character of numerals. -/
theorem NumeralText.WellFormed.exists_head {t : NumeralText} (h : t.WellFormed) :
    ∃ c cs, t.characters = c :: cs ∧ Literal.startsNumber c := by
  have hcharacters : t.characters = t.sign ++ (t.whole ++ (fractionCharacters t.fraction? ++
      exponentCharacters t.exponent?)) := rfl
  rcases h.sign with hsign | hsign | hsign
  · cases hwhole : t.whole with
    | cons c whole =>
      refine ⟨c, _, by rw [hcharacters, hsign, hwhole]; rfl, ?_⟩
      have hdigit : c.isDigit := h.whole c (by simp [hwhole])
      simp [Literal.startsNumber, hdigit]
    | nil =>
      -- Without digits before the point there is a point.
      have hne := h.digits_ne_nil
      cases hfraction : t.fraction? with
      | none => simp [hwhole, hfraction] at hne
      | some digits =>
        exact ⟨'.', _, by rw [hcharacters, hsign, hwhole, hfraction]; rfl, by decide⟩
  · exact ⟨'+', _, by rw [hcharacters, hsign]; rfl, by decide⟩
  · exact ⟨'-', _, by rw [hcharacters, hsign]; rfl, by decide⟩

namespace Literal

open Token

/-- The words and what they stand for. -/
def words : List (String × Json) :=
  [("true", .bool true), ("True", .bool true), ("false", .bool false), ("False", .bool false),
    ("null", .null), ("None", .null)]

/-- The texts of values without parts. -/
inductive IsScalar (IsUnit : List Char → Nat → Prop) : List Char → Json → Prop
  | word {word : String} {v : Json} : (word, v) ∈ words → IsScalar IsUnit word.toList v
  | number {t : NumeralText} {x : Number} : t.WellFormed → t.Denotes x →
      IsScalar IsUnit t.characters (.number x)
  | string {text : List Char} {s : String} : (stringRules IsUnit).IsString quotes text s →
      IsScalar IsUnit text (.string s)

/-- The grammar of literals. -/
def grammar (IsUnit : List Char → Nat → Prop) : Grammar where
  isBlank := Text.isBlank
  IsScalar := IsScalar IsUnit
  IsName := (stringRules IsUnit).IsString quotes
  allowsTrailingComma := true

/-- A whole text stands for a value, with white space around it. -/
def Denotes (IsUnit : List Char → Nat → Prop) (text : String) (v : Json) : Prop :=
  (grammar IsUnit).Derives none (.slot v) text.toList

/-- The table of words is the one that is read. -/
theorem wordValue?_eq_some_iff (cs : List Char) (v : Json) :
    wordValue? cs = some v ↔ (String.ofList cs, v) ∈ words := by
  constructor
  · intro h
    unfold wordValue? at h
    split at h <;> rename_i hword <;> cases h <;> rw [hword] <;> simp [words]
  · have hall : ∀ entry ∈ words, wordValue? entry.1.toList = some entry.2 := by decide
    intro h
    simpa using hall (String.ofList cs, v) h

/-- A character of words can start a scalar. -/
theorem starts_of_isWordChar (IsUnit : List Char → Nat → Prop) {c : Char} (h : isWordChar c) :
    (grammar IsUnit).Starts c := by
  refine ⟨isBlank_eq_false_of_isWordChar h, fun hmark => ?_⟩
  rw [isWordChar_mark c hmark] at h
  contradiction

/-- A quote can start a scalar. -/
theorem starts_of_mem_quotes (IsUnit : List Char → Nat → Prop) {c : Char} (h : c ∈ quotes) :
    (grammar IsUnit).Starts c := by
  have hall : ∀ d ∈ quotes, Text.isBlank d = false ∧ d ∉ marks :=
    List.all_iff_forall_prop.mp (by decide)
  exact hall c h

/-- Every word is written with letters, of which it has one at least. -/
theorem exists_of_mem_words {word : String} {v : Json} (h : (word, v) ∈ words) :
    ∃ c cs, word.toList = c :: cs ∧ ∀ d ∈ c :: cs, d.isAlpha := by
  have hall : ∀ entry ∈ words, entry.1.toList ≠ [] ∧ entry.1.toList.all Char.isAlpha := by decide
  obtain ⟨hne, halpha⟩ := hall (word, v) h
  rcases List.exists_cons_of_ne_nil hne with ⟨c, cs, hword⟩
  exact ⟨c, cs, hword, List.all_eq_true.mp (hword ▸ halpha)⟩

/-- Behind a value no word runs on. -/
theorem startsApart_of_delimits {IsUnit : List Char → Nat → Prop} {rest : List Char}
    (h : (grammar IsUnit).Delimits rest) : StartsApart rest := by
  intro c hc
  rcases h c hc with hblank | hmark
  · exact isWordChar_eq_false_of_isBlank hblank
  · exact isWordChar_mark c (mem_marks_of_closes c hmark)

/-- A letter neither opens a string nor starts a number. -/
theorem not_quote_of_isAlpha {c : Char} (h : c.isAlpha) :
    ¬ (c = '"' ∨ c = '\'') ∧ startsNumber c = false := by
  have hc : c.isAlphanum := by simp [Char.isAlphanum, h]
  exact forall_alphanum
    (p := fun c => c.isAlpha → ¬ (c = '"' ∨ c = '\'') ∧ startsNumber c = false)
    (by decide) hc h

/-- A character that starts a number opens no string and is one of words. -/
theorem isWordChar_of_startsNumber {c : Char} (h : startsNumber c) :
    ¬ (c = '"' ∨ c = '\'') ∧ isWordChar c := by
  constructor
  · rintro (rfl | rfl) <;> contradiction
  · simp only [startsNumber, Bool.or_eq_true, beq_iff_eq] at h
    rcases h with ((h | rfl) | rfl) | rfl
    · exact isWordChar_of_isAlphanum (by simp [Char.isAlphanum, h])
    · decide
    · decide
    · decide +kernel

/-- A text of a value without parts starts with what can start one. -/
theorem IsScalar.exists_head {IsUnit : List Char → Nat → Prop} {text : List Char} {v : Json}
    (h : IsScalar IsUnit text v) : ∃ c cs, text = c :: cs ∧ (grammar IsUnit).Starts c := by
  cases h with
  | word hmem =>
    rcases exists_of_mem_words hmem with ⟨c, cs, hword, halpha⟩
    have hc : c.isAlphanum := by simp [Char.isAlphanum, halpha c List.mem_cons_self]
    exact ⟨c, cs, hword, starts_of_isWordChar IsUnit (isWordChar_of_isAlphanum hc)⟩
  | number ht _ =>
    rcases ht.exists_head with ⟨c, cs, hcharacters, hc⟩
    exact ⟨c, cs, hcharacters, starts_of_isWordChar IsUnit (isWordChar_of_startsNumber hc).2⟩
  | string hstring =>
    rcases hstring with ⟨quote, hquote, body, value, -, rfl, -⟩
    exact ⟨quote, _, rfl, starts_of_mem_quotes IsUnit hquote⟩

/-- What is read as a value without parts is written as one. -/
theorem isScalar_of_readScalar? {cs rest : List Char} {v : Json}
    (h : readScalar? cs = some (v, rest)) :
    ∃ text, IsScalar IsCodeUnit text v ∧ cs = text ++ rest := by
  unfold readScalar? at h
  split at h
  · contradiction
  · rename_i c tail
    split at h
    · rcases Option.map_eq_some_iff.mp h with ⟨⟨s, after⟩, hread, h⟩
      obtain ⟨rfl, rfl⟩ := Prod.mk.inj h
      rcases readString?_eq_some_iff.mp hread with ⟨text, htext, hstring⟩
      exact ⟨text, .string hstring, htext⟩
    · split at h
      · rcases Option.bind_eq_some_iff.mp h with ⟨⟨numeral, after⟩, hread, h⟩
        rcases Option.map_eq_some_iff.mp h with ⟨x, hx, h⟩
        obtain ⟨rfl, rfl⟩ := Prod.mk.inj h
        rcases Numeral.exists_text_of_read? hread with ⟨t, ht, htext, rfl⟩
        exact ⟨t.characters, .number ht ((number?_eq_some_iff t x).mp hx), htext⟩
      · rcases Option.map_eq_some_iff.mp h with ⟨value, hvalue, h⟩
        obtain ⟨rfl, rfl⟩ := Prod.mk.inj h
        have hword : IsScalar IsCodeUnit _ value := .word ((wordValue?_eq_some_iff _ _).mp hvalue)
        rw [String.toList_ofList] at hword
        exact ⟨_, hword, List.takeWhile_append_dropWhile.symm⟩

/-- A value without parts is read where no word runs on. -/
theorem readScalar?_of_isScalar {text rest : List Char} {v : Json}
    (h : IsScalar IsCodeUnit text v) (hrest : StartsApart rest) :
    readScalar? (text ++ rest) = some (v, rest) := by
  cases h with
  | @word word _ hmem =>
    rcases exists_of_mem_words hmem with ⟨c, cs, hword, halpha⟩
    obtain ⟨hquote, hnumber⟩ := not_quote_of_isAlpha (halpha c List.mem_cons_self)
    have hvalue : wordValue? (c :: cs) = some v := by
      rw [wordValue?_eq_some_iff, ← hword, String.ofList_toList]
      exact hmem
    obtain ⟨htake, hdrop⟩ := takeWhile_dropWhile_run halpha hrest.ends.2
    rw [List.cons_append] at htake hdrop
    rw [hword, List.cons_append, readScalar?, if_neg hquote, if_neg (by simp [hnumber]), htake,
      hdrop, hvalue]
    rfl
  | @number t x ht hx =>
    have hread := Numeral.read?_characters ht hrest.ends.1
    rcases ht.exists_head with ⟨c, cs, hcharacters, hc⟩
    rw [hcharacters, List.cons_append] at hread ⊢
    rw [readScalar?, if_neg (isWordChar_of_startsNumber hc).1, if_pos hc, hread, Option.bind_some]
    dsimp only
    rw [(number?_eq_some_iff t x).mpr hx]
    rfl
  | @string _ s hstring =>
    have hread : readString? (text ++ rest) = some (s, rest) :=
      readString?_eq_some_iff.mpr ⟨text, rfl, hstring⟩
    rcases hstring with ⟨quote, hquote, body, value, -, rfl, -⟩
    have hquote' := (mem_quotes_iff quote).mp hquote
    rw [List.cons_append] at hread ⊢
    rw [readScalar?, if_pos hquote', hread]
    rfl

/-- The reader of literals follows the grammar with signed escapes. -/
theorem dialect_follows : dialect.Follows (grammar IsCodeUnit) where
  isBlank_eq := rfl
  allowsTrailingComma_eq := rfl
  isBlank_mark := List.all_iff_forall_prop.mp (by decide)
  head_scalar := IsScalar.exists_head
  head_name := by
    rintro text name ⟨quote, hquote, body, value, -, rfl, -⟩
    exact ⟨quote, _, rfl, starts_of_mem_quotes IsCodeUnit hquote⟩
  sound_scalar := isScalar_of_readScalar?
  sound_name := by
    intro cs rest name h
    rcases readString?_eq_some_iff.mp h with ⟨text, htext, hstring⟩
    exact ⟨text, hstring, htext⟩
  complete_scalar := fun h _ hrest => readScalar?_of_isScalar h (startsApart_of_delimits hrest)
  complete_name := fun h rest => readString?_eq_some_iff.mpr ⟨_, rfl, h⟩

/-! ## Signed escapes -/

/-- An escape where a plus sign stands in front of digits. -/
def signedEscape : List Char :=
  ['\\', 'u', '+']

/-- Parts of a text without signed escapes have none either. -/
theorem partClosed_signedEscape : PartClosed fun cs => ¬ signedEscape <:+: cs :=
  fun front back h =>
    ⟨fun hfront => h (hfront.trans (List.prefix_append front back).isInfix),
      fun hback => h (hback.trans (List.suffix_append front back).isInfix)⟩

/-- The grammars of literals compare as the numbers in their escapes do. -/
theorem extends_of_isUnit {P : List Char → Prop} (hP : PartClosed P)
    {IsUnit IsUnit' : List Char → Nat → Prop}
    (h : ∀ digits n, P ('\\' :: 'u' :: digits) → IsUnit digits n → IsUnit' digits n) :
    Grammar.Extends P (grammar IsUnit) (grammar IsUnit') := by
  have hescape : ∀ text meaning, P ('\\' :: text) → IsEscape IsUnit text meaning →
      IsEscape IsUnit' text meaning := by
    intro text meaning htext hescape
    cases hescape with
    | common hcommon =>
      cases hcommon with
      | letter hmem => exact .common (.letter hmem)
      | unit hunit hsurrogate => exact .common (.unit (h _ _ htext hunit) hsurrogate)
    | quote => exact .quote
    | kept hu hquote hletter => exact .kept hu hquote hletter
  have hstring : ∀ {text s}, P text → (stringRules IsUnit).IsString quotes text s →
      (stringRules IsUnit').IsString quotes text s := fun htext hstring =>
    hstring.mono hP (fun _ _ => trivial) hescape (List.Subset.refl _) htext
  refine ⟨hP, id, fun htext hscalar => ?_, hstring, id⟩
  cases hscalar with
  | word hmem => exact .word hmem
  | number ht hx => exact .number ht hx
  | string hs => exact .string (hstring htext hs)

/-- The texts that are read as literals are the ones of the grammar with signed escapes. -/
theorem parse?_eq_some_iff {text : String} {v : Json} :
    parse? text = some v ↔ Denotes IsCodeUnit text v :=
  dialect_follows.read?_eq_some_iff

/-- Every text of the grammar is read. -/
theorem parse?_of_denotes {text : String} {v : Json} (h : Denotes IsHexQuad text v) :
    parse? text = some v := by
  have hlarger : Grammar.Extends (fun _ => True) (grammar IsHexQuad) (grammar IsCodeUnit) :=
    extends_of_isUnit (fun _ _ _ => ⟨trivial, trivial⟩) fun _ _ _ hunit => .inl hunit
  exact parse?_eq_some_iff.mpr (Grammar.Derives.mono hlarger h trivial (.inl rfl))

/-- The texts that are read as literals.  They are the ones of the grammar with signed
escapes, and so all of the grammar, and no others unless there is a signed escape. -/
theorem parse?_denotes (text : String) (v : Json) :
    (parse? text = some v ↔ Denotes IsCodeUnit text v) ∧
      (Denotes IsHexQuad text v → parse? text = some v) ∧
      (¬ signedEscape <:+: text.toList → (parse? text = some v ↔ Denotes IsHexQuad text v)) := by
  have hsmaller : Grammar.Extends (fun cs => ¬ signedEscape <:+: cs) (grammar IsCodeUnit)
      (grammar IsHexQuad) := by
    apply extends_of_isUnit partClosed_signedEscape
    rintro digits n hdigits (hquad | ⟨triple, rfl, -⟩)
    · exact hquad
    · exact absurd (List.prefix_append signedEscape triple).isInfix hdigits
  refine ⟨parse?_eq_some_iff, parse?_of_denotes, fun hsigned => ⟨fun h => ?_, parse?_of_denotes⟩⟩
  exact Grammar.Derives.mono hsmaller (parse?_eq_some_iff.mp h) hsigned (.inl rfl)

/-- With four digits no string starts with a signed escape. -/
theorem not_signedEscape_prefix {quote : Char} {body value : List Char}
    (h : Spells (stringRules IsHexQuad) quote body value) : ¬ signedEscape <+: body := by
  rintro ⟨rest, hbody⟩
  cases h with
  | nil => contradiction
  | plain hquote hbackslash =>
    obtain ⟨rfl, -⟩ := List.cons.inj hbody
    contradiction
  | @escape text meaning body value hescape =>
    have htext : 'u' :: '+' :: rest = text ++ body := (List.cons.inj hbody).2
    cases hescape with
    | common hcommon =>
      cases hcommon with
      | letter hmem =>
        obtain ⟨rfl, -⟩ := List.cons.inj htext
        exact ne_of_mem_letterMeanings hmem rfl
      | @unit digits n hquad =>
        -- A plus sign is no hexadecimal digit.
        have hdigits : '+' :: rest = digits ++ body := (List.cons.inj htext).2
        rcases List.exists_cons_of_ne_nil (List.ne_nil_of_length_pos (by rw [hquad.1]; decide)) with
          ⟨d, ds, rfl⟩
        obtain ⟨rfl, -⟩ := List.cons.inj hdigits
        have := hexValue?_isSome_of_natOfHex? hquad.2 '+' List.mem_cons_self
        contradiction
    | quote =>
      obtain ⟨h, -⟩ := List.cons.inj htext
      contradiction
    | kept hu =>
      obtain ⟨rfl, -⟩ := List.cons.inj htext
      exact hu rfl

/-- Nothing that starts with a quote and a signed escape is a string with four digits in each
escape. -/
theorem not_isString_of_signedEscape {quote : Char} {text tail rest : List Char} {s : String}
    (hcs : quote :: (signedEscape ++ tail) = text ++ rest) :
    ¬ (stringRules IsHexQuad).IsString quotes text s := by
  rintro ⟨_, hquote, body, value, hspells, rfl, -⟩
  obtain ⟨rfl, hbody⟩ := List.cons.inj hcs
  have hquoted : signedEscape ++ tail = body ++ quote :: rest := by
    rw [hbody]
    simp
  -- The string ends behind the escape, since there is no quote in it.
  rcases List.append_eq_append_iff.mp hquoted with ⟨more, rfl, -⟩ | ⟨more, hfront, htail⟩
  · exact not_signedEscape_prefix hspells (List.prefix_append _ _)
  · cases more with
    | nil =>
      rw [List.append_nil] at hfront
      exact not_signedEscape_prefix hspells (hfront ▸ List.prefix_refl _)
    | cons c more =>
      obtain ⟨rfl, -⟩ := List.cons.inj htail
      have hapart : ∀ c ∈ quotes, c ∉ signedEscape := List.all_iff_forall_prop.mp (by decide)
      exact hapart _ hquote (hfront ▸ List.mem_append_right body List.mem_cons_self)

/-- A string is read that no text of the grammar with four digits is. -/
theorem parse?_signedEscape :
    parse? "'\\u+041'" = some (.string "A") ∧ ∀ v, ¬ Denotes IsHexQuad "'\\u+041'" v := by
  have hread : parse? "'\\u+041'" = some (.string "A") := by decide +kernel
  refine ⟨hread, fun v h => ?_⟩
  obtain rfl : Json.string "A" = v :=
    Option.some.inj (hread.symm.trans (parse?_of_denotes h))
  unfold Denotes at h
  have htext : "'\\u+041'".toList = '\'' :: (signedEscape ++ ['0', '4', '1', '\'']) := by decide
  rw [htext] at h
  generalize hcs : '\'' :: (signedEscape ++ ['0', '4', '1', '\'']) = cs at h
  cases h with
  | @slot _ _ before text after hbefore hvalue hafter =>
    cases hvalue with
    | scalar hscalar =>
      cases hscalar with
      | word hmem => simp [words] at hmem
      | string hstring =>
        cases before with
        | nil =>
          rw [List.nil_append] at hcs
          exact not_isString_of_signedEscape hcs hstring
        | cons b before =>
          obtain ⟨rfl, -⟩ := List.cons.inj hcs
          have hblank : Text.isBlank '\'' := hbefore '\'' List.mem_cons_self
          contradiction

end Literal

end Reshape
