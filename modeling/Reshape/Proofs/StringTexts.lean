import Mathlib.Data.Bool.AllAny
import Reshape.Expression.Literal
import Reshape.Json.Document
import Reshape.Proofs.LiteralShape

/-!
# Texts of strings

The inside of a string is written character by character: a character stands for itself,
or a backslash and some characters behind it stand for something else.  Which characters
and which escapes there are is told by rules, and a reader that follows the rules takes
exactly the strings that are spelled by them.

Main results:

- Definition `Spells`: the inside of a string and what it stands for.
- Theorem `readQuoted?_eq_some_iff`: what a reader of strings takes.
- Theorems `Literal.readString?_eq_some_iff`, `Document.readString?_eq_some_iff`: the strings
  of the two notations.
-/

namespace Reshape

/-! ## Spelling -/

/-- How the inside of a string can be written: the characters that stand for themselves,
and the texts behind a backslash with what they stand for. -/
structure StringRules where
  IsPlain : Char → Prop
  IsEscape : List Char → List Char → Prop

/-- A text between two quotes that spells some characters. -/
inductive Spells (r : StringRules) (quote : Char) : List Char → List Char → Prop
  | nil : Spells r quote [] []
  | plain {c : Char} {body value : List Char} : c ≠ quote → c ≠ '\\' → r.IsPlain c →
      Spells r quote body value → Spells r quote (c :: body) (c :: value)
  | escape {text meaning body value : List Char} : r.IsEscape text meaning →
      Spells r quote body value → Spells r quote ('\\' :: text ++ body) (meaning ++ value)

/-- A quoted text that stands for a string. -/
def StringRules.IsString (r : StringRules) (quotes : List Char) (text : List Char) (s : String) :
    Prop :=
  ∃ quote ∈ quotes, ∃ body value, Spells r quote body value ∧
    text = quote :: (body ++ [quote]) ∧ s = String.ofList value

/-- A property of texts that a text shares with its parts. -/
def PartClosed (P : List Char → Prop) : Prop :=
  ∀ front back, P (front ++ back) → P front ∧ P back

/-- What is spelled by some rules is spelled by rules that allow the same in the text. -/
theorem Spells.mono {r r' : StringRules} {P : List Char → Prop} (hP : PartClosed P)
    (hplain : ∀ c, r.IsPlain c → r'.IsPlain c)
    (hescape : ∀ text meaning, P ('\\' :: text) → r.IsEscape text meaning →
      r'.IsEscape text meaning)
    {quote : Char} {body value : List Char} (h : Spells r quote body value) (hbody : P body) :
    Spells r' quote body value := by
  induction h with
  | nil => exact .nil
  | @plain c body value hquote hbackslash hc _ ih =>
    exact .plain hquote hbackslash (hplain c hc) (ih (hP [c] body hbody).2)
  | @escape text meaning body value htext _ ih =>
    obtain ⟨hfront, hback⟩ := hP _ _ hbody
    exact .escape (hescape text meaning hfront htext) (ih hback)

/-- A quoted text stands for the same string where the rules allow the same. -/
theorem StringRules.IsString.mono {r r' : StringRules} {P : List Char → Prop} (hP : PartClosed P)
    (hplain : ∀ c, r.IsPlain c → r'.IsPlain c)
    (hescape : ∀ text meaning, P ('\\' :: text) → r.IsEscape text meaning →
      r'.IsEscape text meaning)
    {quotes quotes' : List Char} (hquotes : quotes ⊆ quotes') {text : List Char} {s : String}
    (h : r.IsString quotes text s) (htext : P text) : r'.IsString quotes' text s := by
  rcases h with ⟨quote, hquote, body, value, hspells, rfl, rfl⟩
  have hbody : P body := (hP body [quote] (hP [quote] (body ++ [quote]) htext).2).1
  exact ⟨quote, hquotes hquote, body, value, hspells.mono hP hplain hescape hbody, rfl, rfl⟩

/-! ## Readers of strings -/

/-- A reader of strings takes the characters and the escapes that the rules allow. -/
structure Quoting.Follows (q : Quoting) (r : StringRules) : Prop where
  isPlain_iff (c : Char) : q.isPlain c ↔ r.IsPlain c
  sound {cs meaning : List Char} {taken : Nat} (h : q.readEscape? cs = some (meaning, taken)) :
    ∃ text rest, cs = text ++ rest ∧ taken = text.length ∧ r.IsEscape text meaning
  complete {text meaning : List Char} (h : r.IsEscape text meaning) (rest : List Char) :
    q.readEscape? (text ++ rest) = some (meaning, text.length)

/-- A reader of strings takes what is spelled, and no reading ends behind another quote. -/
theorem readQuoted?_eq_some_iff {q : Quoting} {r : StringRules} (hq : q.Follows r) {quote : Char}
    (hquote : quote ≠ '\\') {cs value rest : List Char} :
    readQuoted? q quote cs = some (value, rest) ↔
      ∃ body, cs = body ++ quote :: rest ∧ Spells r quote body value := by
  constructor
  · intro h
    fun_induction readQuoted? q quote cs generalizing value with
    | case1 => contradiction
    | case2 tail =>
      obtain ⟨rfl, rfl⟩ := Prod.mk.inj (Option.some.inj h)
      exact ⟨[], rfl, .nil⟩
    | case3 tail hne ih =>
      rcases Option.bind_eq_some_iff.mp h with ⟨⟨meaning, taken⟩, htaken, h⟩
      rcases Option.map_eq_some_iff.mp h with ⟨⟨inner, after⟩, hread, h⟩
      obtain ⟨rfl, rfl⟩ := Prod.mk.inj h
      rcases hq.sound htaken with ⟨text, back, rfl, rfl, hescape⟩
      rcases ih _ hread with ⟨body, hbody, hspells⟩
      obtain rfl : back = body ++ quote :: after := by rwa [List.drop_left] at hbody
      exact ⟨'\\' :: text ++ body, by simp, .escape hescape hspells⟩
    | case4 c tail hne hbackslash hplain ih =>
      rcases Option.map_eq_some_iff.mp h with ⟨⟨inner, after⟩, hread, h⟩
      obtain ⟨rfl, rfl⟩ := Prod.mk.inj h
      rcases ih hread with ⟨body, rfl, hspells⟩
      exact ⟨c :: body, rfl, .plain hne hbackslash ((hq.isPlain_iff c).mp hplain) hspells⟩
    | case5 => contradiction
  · rintro ⟨body, rfl, h⟩
    induction h with
    | nil => exact readQuoted?_quote q quote rest
    | @plain c body value hne hbackslash hplain _ ih =>
      rw [List.cons_append, readQuoted?, if_neg hne, if_neg hbackslash,
        if_pos ((hq.isPlain_iff c).mpr hplain), ih]
      rfl
    | @escape text meaning body value hescape _ ih =>
      have hcs : '\\' :: text ++ body ++ quote :: rest =
          '\\' :: (text ++ (body ++ quote :: rest)) := by simp
      rw [hcs, readQuoted?, if_neg hquote.symm, if_pos rfl, hq.complete hescape, Option.bind_some]
      dsimp only
      rw [List.drop_left, ih]
      rfl

/-! ## Escapes -/

/-- The letters of the escapes that both notations have, with what they stand for. -/
def letterMeanings : List (Char × Char) :=
  [('n', '\n'), ('t', '\t'), ('r', '\r'), ('b', '\x08'), ('f', '\x0c'), ('\\', '\\'), ('/', '/'),
    ('"', '"')]

/-- Four hexadecimal digits and the number that they stand for. -/
def IsHexQuad (digits : List Char) (n : Nat) : Prop :=
  digits.length = 4 ∧ natOfHex? digits = some n

/-- The numbers of the halves of surrogate pairs. -/
def IsSurrogate (n : Nat) : Prop :=
  0xd800 ≤ n ∧ n < 0xe000

/-- The escapes that both notations have: a letter, or `u` and the number of a character. -/
inductive IsCommonEscape (IsUnit : List Char → Nat → Prop) : List Char → List Char → Prop
  | letter {c d : Char} : (c, d) ∈ letterMeanings → IsCommonEscape IsUnit [c] [d]
  | unit {digits : List Char} {n : Nat} : IsUnit digits n → ¬ IsSurrogate n →
      IsCommonEscape IsUnit ('u' :: digits) [Char.ofNat n]

/-- The table of letters is the one that is read. -/
theorem escapedChar?_eq_some_iff (c d : Char) :
    escapedChar? c = some d ↔ (c, d) ∈ letterMeanings := by
  constructor
  · intro h
    unfold escapedChar? at h
    split at h <;> cases h <;> decide
  · revert c d
    have hall : ∀ entry ∈ letterMeanings, escapedChar? entry.1 = some entry.2 := by decide
    exact fun c d h => hall (c, d) h

/-- The letter of the escapes with a number has no meaning of its own. -/
theorem ne_of_mem_letterMeanings {c d : Char} (h : (c, d) ∈ letterMeanings) : c ≠ 'u' := by
  rintro rfl
  have := (escapedChar?_eq_some_iff 'u' d).mpr h
  contradiction

/-- The halves of surrogate pairs are the first and the second ones. -/
theorem isSurrogate_iff (n : Nat) :
    (isHighSurrogate n || isLowSurrogate n) = true ↔ IsSurrogate n := by
  simp only [isHighSurrogate, isLowSurrogate, IsSurrogate, Bool.or_eq_true, Bool.and_eq_true,
    decide_eq_true_eq]
  omega

/-- Four digits at the front of a text are read. -/
theorem hexQuad?_eq_some_iff (cs : List Char) (n : Nat) :
    hexQuad? cs = some n ↔ IsHexQuad (cs.take 4) n := by
  simp [hexQuad?, IsHexQuad]

/-- What is read as four digits has them in front. -/
theorem exists_of_hexQuad? {cs : List Char} {n : Nat} (h : hexQuad? cs = some n) :
    ∃ digits rest, cs = digits ++ rest ∧ IsHexQuad digits n :=
  ⟨cs.take 4, cs.drop 4, (List.take_append_drop 4 cs).symm, (hexQuad?_eq_some_iff cs n).mp h⟩

/-- Four digits are read whatever is behind them. -/
theorem hexQuad?_append {digits : List Char} {n : Nat} (h : IsHexQuad digits n)
    (rest : List Char) : hexQuad? (digits ++ rest) = some n := by
  rw [hexQuad?_eq_some_iff, ← h.1, List.take_left]
  exact h

/-- What is behind four digits. -/
theorem IsHexQuad.drop_append {digits : List Char} {n : Nat} (h : IsHexQuad digits n)
    (rest : List Char) : (digits ++ rest).drop 4 = rest := by
  rw [← h.1, List.drop_left]

/-! ## Strings of literals -/

namespace Literal

/-- A plus sign and three hexadecimal digits, and the number that they stand for. -/
def IsSignedTriple (digits : List Char) (n : Nat) : Prop :=
  ∃ triple, digits = '+' :: triple ∧ triple.length = 3 ∧ natOfHex? triple = some n

/-- Four characters that are taken for the number of a character. -/
def IsCodeUnit (digits : List Char) (n : Nat) : Prop :=
  IsHexQuad digits n ∨ IsSignedTriple digits n

/-- The escapes of literals.  A single quote can be escaped too, and a backslash in front of
any other character stays with it. -/
inductive IsEscape (IsUnit : List Char → Nat → Prop) : List Char → List Char → Prop
  | common {text meaning : List Char} : IsCommonEscape IsUnit text meaning →
      IsEscape IsUnit text meaning
  | quote : IsEscape IsUnit ['\''] ['\'']
  | kept {c : Char} : c ≠ 'u' → c ≠ '\'' → (∀ d, (c, d) ∉ letterMeanings) →
      IsEscape IsUnit [c] ['\\', c]

/-- The inside of the strings of literals, where every character can stand for itself. -/
def stringRules (IsUnit : List Char → Nat → Prop) : StringRules where
  IsPlain _ := True
  IsEscape := IsEscape IsUnit

/-- The two quotes of literals. -/
def quotes : List Char :=
  ['"', '\'']

/-- The characters of a number are the first four of the text. -/
theorem codeUnit?_eq_some_iff (cs : List Char) (n : Nat) :
    codeUnit? cs = some n ↔ IsCodeUnit (cs.take 4) n := by
  unfold codeUnit? IsCodeUnit IsSignedTriple
  split
  · rename_i triple htriple
    -- A plus sign is no hexadecimal digit.
    have hquad : ¬ IsHexQuad ('+' :: triple) n := by
      rintro ⟨-, hhex⟩
      have := hexValue?_isSome_of_natOfHex? hhex '+' List.mem_cons_self
      contradiction
    simp [htriple, hquad]
  · rename_i hplus
    have htriple : ¬ ∃ triple, cs.take 4 = '+' :: triple ∧ triple.length = 3 ∧
        natOfHex? triple = some n := fun ⟨triple, heq, _⟩ => hplus triple heq
    simp only [htriple, or_false, IsHexQuad]
    split
    · simp_all
    · simp_all

/-- Four characters are taken for a number. -/
theorem IsCodeUnit.length {digits : List Char} {n : Nat} (h : IsCodeUnit digits n) :
    digits.length = 4 := by
  rcases h with ⟨hlength, -⟩ | ⟨triple, rfl, hlength, -⟩
  · exact hlength
  · rw [List.length_cons, hlength]

/-- What is read as the number of a character has its four characters in front. -/
theorem exists_of_codeUnit? {cs : List Char} {n : Nat} (h : codeUnit? cs = some n) :
    ∃ digits rest, cs = digits ++ rest ∧ IsCodeUnit digits n :=
  ⟨cs.take 4, cs.drop 4, (List.take_append_drop 4 cs).symm, (codeUnit?_eq_some_iff cs n).mp h⟩

/-- The number of a character is read whatever is behind it. -/
theorem codeUnit?_append {digits : List Char} {n : Nat} (h : IsCodeUnit digits n)
    (rest : List Char) : codeUnit? (digits ++ rest) = some n := by
  rw [codeUnit?_eq_some_iff, ← h.length, List.take_left]
  exact h

/-- What is read as an escape of a literal is one. -/
theorem exists_of_readEscape? {cs meaning : List Char} {taken : Nat}
    (h : readEscape? cs = some (meaning, taken)) :
    ∃ text rest, cs = text ++ rest ∧ taken = text.length ∧ IsEscape IsCodeUnit text meaning := by
  unfold readEscape? at h
  split at h
  · contradiction
  · rcases Option.bind_eq_some_iff.mp h with ⟨n, hn, hread⟩
    rcases exists_of_codeUnit? hn with ⟨digits, rest, rfl, hunit⟩
    split at hread
    · contradiction
    · rename_i hsurrogate
      obtain ⟨rfl, rfl⟩ := Prod.mk.inj (Option.some.inj hread)
      rw [isSurrogate_iff] at hsurrogate
      exact ⟨'u' :: digits, rest, rfl, by simp [hunit.length], .common (.unit hunit hsurrogate)⟩
  · rename_i c rest hu
    split at h
    · rename_i d hd
      obtain ⟨rfl, rfl⟩ := Prod.mk.inj (Option.some.inj h)
      exact ⟨[c], rest, rfl, rfl, .common (.letter ((escapedChar?_eq_some_iff c d).mp hd))⟩
    · rename_i hnone
      obtain ⟨rfl, rfl⟩ := Prod.mk.inj (Option.some.inj h)
      refine ⟨[c], rest, rfl, rfl, ?_⟩
      by_cases hquote : c = '\''
      · rw [if_pos hquote, hquote]
        exact .quote
      · rw [if_neg hquote]
        refine .kept hu hquote fun d hd => ?_
        rw [(escapedChar?_eq_some_iff c d).mpr hd] at hnone
        contradiction

/-- An escape of a literal is read whatever is behind it. -/
theorem readEscape?_append {text meaning : List Char} (h : IsEscape IsCodeUnit text meaning)
    (rest : List Char) : readEscape? (text ++ rest) = some (meaning, text.length) := by
  cases h with
  | common h =>
    cases h with
    | @letter c d hmem =>
      have hd := (escapedChar?_eq_some_iff c d).mpr hmem
      rw [List.singleton_append, readEscape?, hd]
      · rfl
      · exact ne_of_mem_letterMeanings hmem
    | @unit digits n hunit hsurrogate =>
      rw [List.cons_append, readEscape?, codeUnit?_append hunit, Option.bind_some,
        if_neg ((isSurrogate_iff n).not.mpr hsurrogate), List.length_cons, hunit.length]
  | quote => rfl
  | @kept c hu hquote hletter =>
    have hnone : escapedChar? c = none := by
      rw [Option.eq_none_iff_forall_ne_some]
      exact fun d hd => hletter d ((escapedChar?_eq_some_iff c d).mp hd)
    rw [List.singleton_append, readEscape?, hnone]
    · simp [hquote]
    · exact hu

/-- The reader of literals follows the rules. -/
theorem quoting_follows : quoting.Follows (stringRules IsCodeUnit) where
  isPlain_iff _ := ⟨fun _ => trivial, fun _ => rfl⟩
  sound := exists_of_readEscape?
  complete := readEscape?_append

/-- The quotes are the two characters the reader asks for. -/
theorem mem_quotes_iff (c : Char) : c ∈ quotes ↔ c = '"' ∨ c = '\'' := by
  simp [quotes]

/-- No string is opened by a backslash. -/
theorem ne_backslash_of_mem_quotes : ∀ c ∈ quotes, c ≠ '\\' :=
  List.all_iff_forall_prop.mp (by decide)

/-- A string of a literal is read, and nothing else is. -/
theorem readString?_eq_some_iff {cs rest : List Char} {s : String} :
    readString? cs = some (s, rest) ↔
      ∃ text, cs = text ++ rest ∧ (stringRules IsCodeUnit).IsString quotes text s := by
  constructor
  · intro h
    unfold readString? at h
    split at h
    · contradiction
    · rename_i quote tail
      split at h
      · rename_i hquote
        rw [← mem_quotes_iff] at hquote
        rcases Option.map_eq_some_iff.mp h with ⟨⟨value, after⟩, hread, h⟩
        obtain ⟨rfl, rfl⟩ := Prod.mk.inj h
        rw [readQuoted?_eq_some_iff quoting_follows (ne_backslash_of_mem_quotes quote hquote)]
          at hread
        rcases hread with ⟨body, rfl, hspells⟩
        exact ⟨quote :: (body ++ [quote]), by simp, quote, hquote, body, value, hspells, rfl, rfl⟩
      · contradiction
  · rintro ⟨text, rfl, quote, hquote, body, value, hspells, rfl, rfl⟩
    have hread : readQuoted? quoting quote (body ++ quote :: rest) = some (value, rest) :=
      (readQuoted?_eq_some_iff quoting_follows (ne_backslash_of_mem_quotes quote hquote)).mpr
        ⟨body, rfl, hspells⟩
    have hcs : quote :: (body ++ [quote]) ++ rest = quote :: (body ++ quote :: rest) := by simp
    rw [hcs, readString?, if_pos ((mem_quotes_iff quote).mp hquote), hread]
    rfl

end Literal

/-! ## Strings of documents -/

namespace Document

/-- A surrogate pair is written as two numbers, and stands for one character. -/
inductive IsPairEscape : List Char → List Char → Prop
  | pair {high low : List Char} {m n : Nat} : IsHexQuad high m → isHighSurrogate m →
      IsHexQuad low n → isLowSurrogate n →
      IsPairEscape ('u' :: high ++ '\\' :: 'u' :: low)
        [Char.ofNat (0x10000 + 0x400 * (m - 0xd800) + (n - 0xdc00))]

/-- The escapes of documents. -/
def IsEscape (text meaning : List Char) : Prop :=
  IsCommonEscape IsHexQuad text meaning ∨ IsPairEscape text meaning

/-- The inside of the strings of documents, where controls have to be escaped. -/
def stringRules (IsEscape : List Char → List Char → Prop) : StringRules where
  IsPlain c := 0x20 ≤ c.toNat
  IsEscape := IsEscape

/-- What is read as an escape of a document is one. -/
theorem exists_of_readEscape? {cs meaning : List Char} {taken : Nat}
    (h : readEscape? cs = some (meaning, taken)) :
    ∃ text rest, cs = text ++ rest ∧ taken = text.length ∧ IsEscape text meaning := by
  unfold readEscape? at h
  split at h
  · rcases Option.bind_eq_some_iff.mp h with ⟨n, hn, hread⟩
    rcases exists_of_hexQuad? hn with ⟨digits, rest, rfl, hquad⟩
    split at hread
    · rename_i hhigh
      rw [hquad.drop_append] at hread
      split at hread
      · rcases Option.bind_eq_some_iff.mp hread with ⟨m, hm, hpair⟩
        rcases exists_of_hexQuad? hm with ⟨digits', rest, rfl, hquad'⟩
        split at hpair
        · rename_i hlow
          obtain ⟨rfl, rfl⟩ := Prod.mk.inj (Option.some.inj hpair)
          exact ⟨'u' :: digits ++ '\\' :: 'u' :: digits', rest, by simp,
            by simp [hquad.1, hquad'.1], .inr (.pair hquad hhigh hquad' hlow)⟩
        · contradiction
      · contradiction
    · rename_i hhigh
      split at hread
      · contradiction
      · rename_i hlow
        obtain ⟨rfl, rfl⟩ := Prod.mk.inj (Option.some.inj hread)
        have hsurrogate : ¬ IsSurrogate n := by
          rw [← isSurrogate_iff]
          simp [hhigh, hlow]
        exact ⟨'u' :: digits, rest, rfl, by simp [hquad.1], .inl (.unit hquad hsurrogate)⟩
  · rename_i c rest hu
    rcases Option.map_eq_some_iff.mp h with ⟨d, hd, h⟩
    obtain ⟨rfl, rfl⟩ := Prod.mk.inj h
    exact ⟨[c], rest, rfl, rfl, .inl (.letter ((escapedChar?_eq_some_iff c d).mp hd))⟩
  · contradiction

/-- An escape of a document is read whatever is behind it. -/
theorem readEscape?_append {text meaning : List Char} (h : IsEscape text meaning)
    (rest : List Char) : readEscape? (text ++ rest) = some (meaning, text.length) := by
  rcases h with h | h
  · cases h with
    | @letter c d hmem =>
      have hd := (escapedChar?_eq_some_iff c d).mpr hmem
      rw [List.singleton_append, readEscape?, hd]
      · rfl
      · exact ne_of_mem_letterMeanings hmem
    | @unit digits n hquad hsurrogate =>
      rw [← isSurrogate_iff, Bool.or_eq_true, not_or, Bool.not_eq_true, Bool.not_eq_true]
        at hsurrogate
      rw [List.cons_append, readEscape?, hexQuad?_append hquad, Option.bind_some, hsurrogate.1,
        hsurrogate.2, List.length_cons, hquad.1]
      rfl
  · rcases h with ⟨hquad, hhigh, hquad', hlow⟩
    rename_i high low m n
    have hcs : 'u' :: high ++ '\\' :: 'u' :: low ++ rest =
        'u' :: (high ++ '\\' :: 'u' :: (low ++ rest)) := by simp
    rw [hcs, readEscape?, hexQuad?_append hquad, Option.bind_some, if_pos hhigh,
      hquad.drop_append]
    simp [hexQuad?_append hquad', hlow, hquad.1, hquad'.1]

/-- The reader of documents follows the rules. -/
theorem quoting_follows : quoting.Follows (stringRules IsEscape) where
  isPlain_iff _ := decide_eq_true_iff
  sound := exists_of_readEscape?
  complete := readEscape?_append

/-- A string of a document is read, and nothing else is. -/
theorem readString?_eq_some_iff {cs rest : List Char} {s : String} :
    readString? cs = some (s, rest) ↔
      ∃ text, cs = text ++ rest ∧ (stringRules IsEscape).IsString ['"'] text s := by
  constructor
  · intro h
    unfold readString? at h
    split at h
    · rename_i tail
      rcases Option.map_eq_some_iff.mp h with ⟨⟨value, after⟩, hread, h⟩
      obtain ⟨rfl, rfl⟩ := Prod.mk.inj h
      rw [readQuoted?_eq_some_iff quoting_follows (by decide)] at hread
      rcases hread with ⟨body, rfl, hspells⟩
      exact ⟨'"' :: (body ++ ['"']), by simp, '"', List.mem_singleton_self _, body, value, hspells,
        rfl, rfl⟩
    · contradiction
  · rintro ⟨text, rfl, quote, hquote, body, value, hspells, rfl, rfl⟩
    obtain rfl := List.mem_singleton.mp hquote
    have hread : readQuoted? quoting '"' (body ++ '"' :: rest) = some (value, rest) :=
      (readQuoted?_eq_some_iff quoting_follows (by decide)).mpr ⟨body, rfl, hspells⟩
    have hcs : '"' :: (body ++ ['"']) ++ rest = '"' :: (body ++ '"' :: rest) := by simp
    rw [hcs, readString?, hread]
    rfl

end Document

end Reshape
