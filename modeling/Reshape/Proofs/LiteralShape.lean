import Mathlib.Data.List.TakeWhile
import Reshape.Expression.Literal
import Reshape.Expression.Token

/-!
# The shape of literals

What the text of a literal looks like can be told from its first character.  An opening
bracket makes it an array or an object; a quote makes it a string, which runs to the
first quote of its kind that is not escaped; and all other literals are written with the
characters of numbers and words.

Main results:

- Theorem `exists_body_of_readQuoted?`: the quotes inside a string stand behind
  backslashes.
- Theorem `mem_of_read?`: a numeral takes up no other characters than its own.
- Theorem `parse?_cases`: the three shapes of a literal.
-/

namespace Reshape

/-- A character outside of a class is not lost with the run at the front of a text. -/
theorem mem_dropWhile_of_mem {p : Char → Bool} {c : Char} {cs : List Char} (hc : p c = false)
    (h : c ∈ cs) : c ∈ cs.dropWhile p := by
  rw [← List.takeWhile_append_dropWhile (p := p) (l := cs), List.mem_append] at h
  rcases h with h | h
  · rw [List.mem_takeWhile_imp h] at hc
    contradiction
  · exact h

/-! ## Strings -/

/-- The characters of a hexadecimal number are hexadecimal digits. -/
theorem hexValue?_isSome_of_natOfHex? {cs : List Char} {n : Nat} (h : natOfHex? cs = some n) :
    ∀ c ∈ cs, (hexValue? c).isSome := by
  have hnone : ∀ cs : List Char,
      cs.foldl (fun value? c => value?.bind fun value => (hexValue? c).map (16 * value + ·)) none =
        none := by
    intro cs
    induction cs with
    | nil => rfl
    | cons c cs ih => exact ih
  unfold natOfHex? at h
  generalize 0 = start at h
  induction cs generalizing start with
  | nil => simp
  | cons c cs ih =>
    rw [List.foldl_cons] at h
    cases hc : hexValue? c with
    | none => simp [hc, hnone] at h
    | some digit =>
      refine List.forall_mem_cons.mpr ⟨by simp [hc], ih (16 * start + digit) ?_⟩
      simpa [hc] using h

namespace Literal

/-- The characters of a code unit are no quotes. -/
theorem isQuote_eq_false_of_codeUnit? {cs : List Char} {n : Nat} (h : codeUnit? cs = some n) :
    ∀ c ∈ cs.take 4, Token.isQuote c = false := by
  have hhex : ∀ c, (hexValue? c).isSome → Token.isQuote c = false := by
    intro c hc
    rw [Bool.eq_false_iff]
    intro hquote
    obtain rfl | rfl : c = '\'' ∨ c = '"' := by simpa [Token.isQuote] using hquote
    · contradiction
    · contradiction
  unfold codeUnit? at h
  split at h
  · rename_i digits hdigits
    split at h
    · rw [hdigits]
      refine List.forall_mem_cons.mpr ⟨by decide, fun c hc => ?_⟩
      exact hhex c (hexValue?_isSome_of_natOfHex? h c hc)
    · cases h
  · split at h
    · exact fun c hc => hhex c (hexValue?_isSome_of_natOfHex? h c hc)
    · cases h

/-- Of the characters that an escape takes up, only the first can be a quote. -/
theorem exists_take_of_readEscape? {cs meaning : List Char} {taken : Nat}
    (h : readEscape? cs = some (meaning, taken)) :
    ∃ c rest, cs.take taken = c :: rest ∧ ∀ d ∈ rest, Token.isQuote d = false := by
  cases cs with
  | nil => simp [readEscape?] at h
  | cons c rest =>
    by_cases hc : c = 'u'
    · subst hc
      rw [readEscape?, Option.bind_eq_some_iff] at h
      rcases h with ⟨n, hn, h⟩
      split at h
      · contradiction
      · obtain ⟨-, rfl⟩ : [Char.ofNat n] = meaning ∧ 5 = taken := by simpa using h
        exact ⟨'u', rest.take 4, rfl, isQuote_eq_false_of_codeUnit? hn⟩
    · obtain rfl : taken = 1 := by
        rw [readEscape?] at h
        · split at h <;> simp_all
        · exact hc
      exact ⟨c, [], rfl, by simp⟩

/-- Every quote stands behind a backslash. -/
def QuotesEscaped (quote : Char) (body : List Char) : Prop :=
  ∀ front back, body = front ++ quote :: back → front.getLast? = some '\\'

/-- Characters other than the quote can stand in front. -/
theorem QuotesEscaped.append {quote : Char} {front body : List Char}
    (h : QuotesEscaped quote body) (hfront : quote ∉ front) :
    QuotesEscaped quote (front ++ body) := by
  intro before back heq
  rcases List.append_eq_append_iff.mp heq with ⟨middle, rfl, hbody⟩ | ⟨middle, hquote, hback⟩
  · rw [List.getLast?_append, h middle back hbody]
    rfl
  · cases middle with
    | nil =>
      have := h [] back (by simpa using hback.symm)
      contradiction
    | cons c middle =>
      obtain ⟨rfl, -⟩ : quote = c ∧ back = middle ++ body := by simpa using hback
      simp [hquote] at hfront

/-- A quote can stand behind a backslash. -/
theorem QuotesEscaped.escape {quote c : Char} {body : List Char} (h : QuotesEscaped quote body)
    (hquote : quote ≠ '\\') : QuotesEscaped quote ('\\' :: c :: body) := by
  intro front back heq
  match front with
  | [] =>
    have := (List.cons.inj heq).1
    exact absurd this.symm hquote
  | [first] =>
    rcases List.cons.inj heq with ⟨rfl, -⟩
    rfl
  | first :: second :: front =>
    have hbody : body = front ++ quote :: back :=
      (List.cons.inj (List.cons.inj heq).2).2
    simp [List.getLast?_cons, h front back hbody]

/-- A string runs to its closing quote, and the quotes inside it are escaped. -/
theorem exists_body_of_readQuoted? {quote : Char} (hquote : Token.isQuote quote)
    {cs value rest : List Char} (h : readQuoted? quoting quote cs = some (value, rest)) :
    ∃ body, cs = body ++ quote :: rest ∧ QuotesEscaped quote body := by
  have hbackslash : quote ≠ '\\' := by
    rintro rfl
    contradiction
  fun_induction readQuoted? quoting quote cs generalizing value rest with
  | case1 => contradiction
  | case2 tail =>
    obtain ⟨-, rfl⟩ : [] = value ∧ tail = rest := by simpa using h
    refine ⟨[], rfl, fun front back heq => ?_⟩
    simp at heq
  | case3 tail hc ih =>
    rcases Option.bind_eq_some_iff.mp h with ⟨⟨meaning, taken⟩, htaken, h⟩
    rcases Option.map_eq_some_iff.mp h with ⟨⟨inner, after⟩, hread, h⟩
    obtain ⟨-, rfl⟩ : meaning ++ inner = value ∧ after = rest := by simpa using h
    rcases ih taken hread with ⟨body, hbody, hescaped⟩
    rcases exists_take_of_readEscape? htaken with ⟨d, ds, htake, hds⟩
    refine ⟨'\\' :: d :: (ds ++ body), ?_, ?_⟩
    · have htail : tail = d :: (ds ++ (body ++ quote :: after)) := by
        rw [← List.take_append_drop taken tail, htake, hbody]
        rfl
      simp [htail]
    · apply QuotesEscaped.escape _ hbackslash
      apply hescaped.append
      intro hmem
      rw [hds quote hmem] at hquote
      contradiction
  | case4 c tail hc hescape hplain ih =>
    rcases Option.map_eq_some_iff.mp h with ⟨⟨inner, after⟩, hread, h⟩
    obtain ⟨-, rfl⟩ : c :: inner = value ∧ after = rest := by simpa using h
    rcases ih hread with ⟨body, hbody, hescaped⟩
    refine ⟨c :: body, by rw [hbody]; rfl, ?_⟩
    have hfront : quote ∉ [c] := by simpa using Ne.symm hc
    exact hescaped.append hfront
  | case5 c tail hc hescape hplain => contradiction

end Literal

/-! ## Numbers -/

namespace Numeral

/-- A character that no numeral is written with. -/
structure Foreign (c : Char) : Prop where
  not_digit : c.isDigit = false
  not_mark : c ∉ ['+', '-', '.', 'e', 'E']

/-- A sign takes up no other character. -/
theorem mem_signRun {c : Char} {cs : List Char} (hc : Foreign c) (h : c ∈ cs) :
    c ∈ (signRun cs).2 := by
  have hmark := hc.not_mark
  unfold signRun
  split <;> simp_all

/-- Digits take up no other character. -/
theorem mem_digitRun {c : Char} {cs : List Char} (hc : Foreign c) (h : c ∈ cs) :
    c ∈ (digitRun cs).2 :=
  mem_dropWhile_of_mem hc.not_digit h

/-- A fraction takes up no other character. -/
theorem mem_readFraction {c : Char} {cs : List Char} (hc : Foreign c) (h : c ∈ cs) :
    c ∈ (readFraction cs).2 := by
  have hmark := hc.not_mark
  unfold readFraction
  split
  · apply mem_digitRun hc
    simp_all
  · exact h

/-- An exponent takes up no other character. -/
theorem mem_of_readExponent? {c : Char} {cs rest : List Char} {exponent? : Option Int}
    (hc : Foreign c) (h : c ∈ cs) (hread : readExponent? cs = some (exponent?, rest)) :
    c ∈ rest := by
  have hmark := hc.not_mark
  unfold readExponent? at hread
  split at hread
  · rename_i d tail
    split at hread
    · rename_i hd
      have htail : c ∈ tail := by
        rcases hd with rfl | rfl <;> simp_all
      have hdigits := mem_digitRun hc (mem_signRun hc htail)
      dsimp only at hread
      split at hread
      · contradiction
      · rcases Prod.mk.inj (Option.some.inj hread) with ⟨-, rfl⟩
        exact hdigits
    · rcases Prod.mk.inj (Option.some.inj hread) with ⟨-, rfl⟩
      exact h
  · contradiction

/-- A numeral takes up no other character. -/
theorem mem_of_read? {c : Char} {cs rest : List Char} {n : Numeral} (hc : Foreign c)
    (h : c ∈ cs) (hread : read? cs = some (n, rest)) : c ∈ rest := by
  have hfraction := mem_readFraction hc (mem_digitRun hc (mem_signRun hc h))
  unfold read? at hread
  dsimp only at hread
  split at hread
  · contradiction
  · rcases Option.map_eq_some_iff.mp hread with ⟨⟨exponent?, after⟩, hexponent, hread⟩
    rcases Prod.mk.inj hread with ⟨-, rfl⟩
    exact mem_of_readExponent? hc hfraction hexponent

end Numeral

/-! ## Shapes -/

/-- Arrays and objects are the values with parts. -/
def Json.isContainer : Json → Bool
  | .array _ => true
  | .object _ => true
  | _ => false

namespace Literal

/-- A word stands for no container. -/
theorem isContainer_eq_false_of_wordValue? {word : List Char} {v : Json}
    (h : wordValue? word = some v) : v.isContainer = false := by
  unfold wordValue? at h
  split at h <;> cases h <;> rfl

/-- A value without parts is no container. -/
theorem isContainer_eq_false_of_readScalar? {cs rest : List Char} {v : Json}
    (h : readScalar? cs = some (v, rest)) : v.isContainer = false := by
  unfold readScalar? at h
  split at h
  · contradiction
  · split at h
    · rcases Option.map_eq_some_iff.mp h with ⟨⟨s, after⟩, -, h⟩
      cases h
      rfl
    · split at h
      · rcases Option.bind_eq_some_iff.mp h with ⟨⟨numeral, after⟩, -, h⟩
        rcases Option.map_eq_some_iff.mp h with ⟨n, -, h⟩
        cases h
        rfl
      · rcases Option.map_eq_some_iff.mp h with ⟨value, hvalue, h⟩
        cases h
        exact isContainer_eq_false_of_wordValue? hvalue

/-- A value without parts is a string, or takes up no characters but letters and those of
numerals. -/
theorem readScalar?_cases {cs rest : List Char} {v : Json}
    (h : readScalar? cs = some (v, rest)) :
    (∃ quote body, Token.isQuote quote ∧ cs = quote :: (body ++ quote :: rest) ∧
      QuotesEscaped quote body) ∨
    ∀ c, Numeral.Foreign c → c.isAlpha = false → c ∈ cs → c ∈ rest := by
  unfold readScalar? at h
  split at h
  · contradiction
  · rename_i quote tail
    split at h
    · rename_i hquote
      rcases Option.map_eq_some_iff.mp h with ⟨⟨s, after⟩, hread, h⟩
      obtain ⟨-, rfl⟩ : Json.string s = v ∧ after = rest := by simpa using h
      rw [readString?, if_pos hquote] at hread
      rcases Option.map_eq_some_iff.mp hread with ⟨⟨value, after'⟩, hquoted, hafter⟩
      obtain ⟨-, rfl⟩ : String.ofList value = s ∧ after' = after := by simpa using hafter
      have hisQuote : Token.isQuote quote := by
        rcases hquote with rfl | rfl <;> rfl
      rcases exists_body_of_readQuoted? hisQuote hquoted with ⟨body, rfl, hescaped⟩
      exact .inl ⟨quote, body, hisQuote, rfl, hescaped⟩
    · refine .inr fun c hforeign halpha hmem => ?_
      split at h
      · rcases Option.bind_eq_some_iff.mp h with ⟨⟨numeral, after⟩, hread, h⟩
        rcases Option.map_eq_some_iff.mp h with ⟨n, -, h⟩
        obtain ⟨-, rfl⟩ : Json.number n = v ∧ after = rest := by simpa using h
        exact Numeral.mem_of_read? hforeign hmem hread
      · rcases Option.map_eq_some_iff.mp h with ⟨value, -, h⟩
        rcases Prod.mk.inj h with ⟨-, rfl⟩
        exact mem_dropWhile_of_mem halpha hmem

/-- The first character of a literal that is a container. -/
def isOpening (c : Char) : Bool :=
  c == '[' || c == '{'

/-- A literal is a container that starts with an opening bracket, or a value without parts
with nothing but blanks behind it. -/
theorem parse?_cases {text : String} {v : Json} (h : parse? text = some v) :
    (∃ c rest, text.toList.dropWhile Text.isBlank = c :: rest ∧ isOpening c ∧ v.isContainer) ∨
      ∃ rest, readScalar? (text.toList.dropWhile Text.isBlank) = some (v, rest) ∧
        ∀ c ∈ rest, Text.isBlank c := by
  unfold parse? Dialect.read? at h
  rcases Option.bind_eq_some_iff.mp h with ⟨⟨value, rest⟩, hread, h⟩
  have hrest : ∀ c ∈ rest, Text.isBlank c := by
    dsimp only at h
    split at h
    · rename_i hempty
      exact List.dropWhile_eq_nil_iff.mp (List.isEmpty_iff.mp hempty)
    · contradiction
  obtain rfl : value = v := by
    dsimp only at h
    split at h
    · exact Option.some.inj h
    · contradiction
  rw [Dialect.readValue?] at hread
  have hskip : dialect.skipBlanks text.toList = text.toList.dropWhile Text.isBlank := rfl
  rw [hskip] at hread
  split at hread
  · rename_i tail htail
    refine .inl ⟨'[', tail, htail, rfl, ?_⟩
    rcases Option.bind_eq_some_iff.mp hread with ⟨depth, -, hread⟩
    split at hread
    · cases hread
      rfl
    · rcases Option.map_eq_some_iff.mp hread with ⟨⟨items, after⟩, -, hread⟩
      cases hread
      rfl
  · rename_i tail htail
    refine .inl ⟨'{', tail, htail, rfl, ?_⟩
    rcases Option.bind_eq_some_iff.mp hread with ⟨depth, -, hread⟩
    split at hread
    · cases hread
      rfl
    · rcases Option.map_eq_some_iff.mp hread with ⟨⟨fields, after⟩, -, hread⟩
      cases hread
      rfl
  · exact .inr ⟨rest, hread, hrest⟩

end Literal

end Reshape
