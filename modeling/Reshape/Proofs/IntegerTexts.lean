import Reshape.Proofs.CatalogCalls
import Reshape.Proofs.EmbeddedScalars
import Reshape.Proofs.NearestIntegers

/-!
# Integers in texts

The decimal text of an integer is coerced back in two ways.  As an integer it is read as it is
written, so nothing is lost.  As a number it is read as the nearest binary64 number, which is then
turned into an integer again.  That is another integer when the text has more binary digits than a
binary64 number keeps, and it is no integer at all when the nearest number lies outside the range of
64 bits with a sign.  Blanks around the text do not matter.

Main results:

- Theorem `Text.trim_append`: blanks around a text are trimmed off.
- Theorem `readInteger?_render`: an integer of 64 bits with a sign is read as it is written.
- Theorem `readReal?_render`: an integer is read as its nearest number.
- Theorem `coerced_integer_texts`: what the two coercions give, and when they agree.
- Theorem `coerced_integer_texts_inexact`: integers that change on the way.
-/

namespace Reshape

/-! ## Blanks around a text -/

/-- Blanks around a text are trimmed off. -/
theorem Text.trim_append {before cs after : List Char} (hbefore : ∀ c ∈ before, isBlank c)
    (hafter : ∀ c ∈ after, isBlank c) (hcs : Trimmed cs) (hne : cs ≠ []) :
    trim (before ++ cs ++ after) = cs := by
  have hhead : ∀ c ∈ (cs ++ after).head?, isBlank c = false := by
    intro c hc
    rw [List.head?_append_of_ne_nil _ hne] at hc
    exact hcs c (.inl hc)
  have hlast : ∀ c ∈ cs.reverse.head?, isBlank c = false := by
    intro c hc
    rw [List.head?_reverse] at hc
    exact hcs c (.inr hc)
  have hstart : trimStart (before ++ cs ++ after) = cs ++ after := by
    rw [trimStart, List.append_assoc, (Token.takeWhile_dropWhile_run hbefore hhead).2]
  have hafter' : ∀ c ∈ after.reverse, isBlank c := fun c hc => hafter c (List.mem_reverse.mp hc)
  rw [trim, hstart, trimEnd, List.reverse_append,
    (Token.takeWhile_dropWhile_run hafter' hlast).2, List.reverse_reverse]

/-- No blanks stand around a numeral. -/
theorem NumeralText.WellFormed.trimmed {t : NumeralText} (h : t.WellFormed) :
    Trimmed t.characters := by
  rintro c (hc | hc)
  · exact Token.isBlank_eq_false_of_isWordChar (h.isWordChar c (List.mem_of_mem_head? hc))
  · exact Token.isBlank_eq_false_of_isWordChar (h.isWordChar c (List.mem_of_mem_getLast? hc))

/-! ## Reading the digits -/

section Digits

variable {n : Int}

/-- A written integer is a sign and the digits of its size. -/
theorem signRun_render (n : Int) :
    signRun (Number.integer n).render = (decide (n < 0), Nat.toDigits 10 n.natAbs) := by
  have ht := NumeralText.wellFormed_ofInteger n
  have hhead := NumeralText.head_whole_append ht []
  have hdigits : (NumeralText.ofInteger n).whole ++ (NumeralText.fractionCharacters
      (NumeralText.ofInteger n).fraction? ++ []) = Nat.toDigits 10 n.natAbs := List.append_nil _
  rw [hdigits] at hhead
  rw [← NumeralText.negative_ofInteger]
  exact signRun_sign ht.sign hhead

/-- An integer of 64 bits with a sign is read as it is written. -/
theorem readInteger?_render (hn : isSigned64 n) :
    readInteger? (Number.integer n).render = some n := by
  have hdigits : (Nat.toDigits 10 n.natAbs).all Char.isDigit :=
    List.all_eq_true.mpr (isDigits_toDigits _)
  have hvalue : (if decide (n < 0) then -(n.natAbs : Int) else n.natAbs) = n := by
    by_cases h : n < 0
    · simp only [h, decide_true, if_true]
      omega
    · simp only [h, decide_false, Bool.false_eq_true, if_false]
      omega
  simp only [readInteger?, signRun_render, natOfDigits_toDigits, hvalue, hdigits, hn,
    List.isEmpty_eq_false_iff.mpr Nat.toDigits_ne_nil, Bool.not_false, Bool.and_self, if_true]

/-- The numeral of an integer of up to 64 bits stands for its nearest number. -/
theorem NumeralText.toExtended_ofInteger (hn : n.natAbs ≤ 2 ^ 64) :
    (ofInteger n).numeral.toExtended = .ofInt n := by
  obtain ⟨x, hx⟩ := Binary64.Extended.exists_ofInt_eq_finite hn
  have hsize : (ofInteger n).numeral.decimal.value = n.natAbs := by
    have hdecimal : (ofInteger n).numeral.decimal =
        ⟨natOfDigits (Nat.toDigits 10 n.natAbs ++ []), 0⟩ := rfl
    rw [hdecimal, List.append_nil, natOfDigits_toDigits, Decimal.value, zpow_zero, mul_one]
  rw [hx, Numeral.toExtended, Decimal.toExtended_eq_finite_iff, negative_ofInteger, hsize,
    Binary64.signed_natAbs]
  exact ⟨(Binary64.magnitude_of_ofInt hx).1, Binary64.Extended.isNearest_of_ofInt hx⟩

/-- An integer of up to 64 bits is read as its nearest number. -/
theorem readReal?_render (hn : n.natAbs ≤ 2 ^ 64) :
    readReal? (Number.integer n).render = some (.ofInt n) := by
  have hends : NumeralText.Ends [] := nofun
  have hread := Numeral.read?_characters (NumeralText.wellFormed_ofInteger n) hends
  rw [List.append_nil, NumeralText.characters_ofInteger] at hread
  rw [readReal?, hread]
  exact congrArg some (NumeralText.toExtended_ofInteger hn)

end Digits

open Json

/-! ## Coercing a text -/

namespace Json

variable {n : Int} (hn : isSigned64 n) {s : String}
  (hs : Text.trim s.toList = (Number.integer n).render)

include hn hs

/-- As an integer, the text of an integer is that integer. -/
theorem toInteger?_integerText : (string s).toInteger? = some n := by
  simp only [toInteger?, hs, readInteger?_render hn]

/-- As a number, the text of an integer is its nearest number, turned into an integer where that
has 64 bits with a sign. -/
theorem exists_toNumber?_integerText :
    ∃ x, Binary64.IsNearest n x ∧ x.value = Binary64.nearestInt n ∧
      (string s).toNumber? = some (if isSigned64 (Binary64.nearestInt n)
        then ofInt (Binary64.nearestInt n) else number (.float x)) := by
  have hsize : n.natAbs ≤ 2 ^ 64 := (natAbs_le_of_isSigned64 hn).trans (by decide)
  obtain ⟨x, hx⟩ := Binary64.Extended.exists_ofInt_eq_finite hsize
  refine ⟨x, Binary64.Extended.isNearest_of_ofInt hx, Binary64.value_of_ofInt hx, ?_⟩
  have hread : (string s).toExtended? = some (.finite x) := by
    rw [toExtended?, hs, readReal?_render hsize, hx]
  simp only [toNumber?, hread, Option.map_some, Binary64.Extended.truncate?,
    Binary64.truncate_of_ofInt hx, Binary64.Extended.isWhole, Binary64.isWhole_of_ofInt hx]
  by_cases hsigned : isSigned64 (Binary64.nearestInt n)
  · simp only [hsigned, if_true]
  · simp only [hsigned]
    rfl

/-- That gives the integer back exactly when it is a binary64 number. -/
theorem toNumber?_integerText_iff :
    (string s).toNumber? = some (ofInt n) ↔ ∃ x : Binary64, x.value = n := by
  have hsize : n.natAbs ≤ 2 ^ 64 := (natAbs_le_of_isSigned64 hn).trans (by decide)
  obtain ⟨x, -, -, hnumber⟩ := exists_toNumber?_integerText hn hs
  rw [Binary64.exists_value_eq_iff hsize, hnumber, Option.some.injEq]
  constructor
  · intro h
    split at h
    next => exact Number.integer.inj (Json.number.inj h)
    next => cases h
  · intro hself
    rw [hself, if_pos hn]

end Json

/-! ## Calls -/

/-- The names of the operations that coerce a value to a number. -/
def numberingNames : Set String :=
  {"toInt", "toNumber"}

/-- The operations of the catalog are also in the standard registry. -/
theorem agreeOn_numberingNames : Registry.AgreeOn numberingNames .catalog .standard := by
  apply Registry.agreeOn_standard
  simp [numberingNames]

section Calls

variable {r : Registry} (hr : Registry.AgreeOn numberingNames .catalog r)

include hr

/-- What coercing a text to an integer gives. -/
theorem applyOperation_toInt (s : String) (location : String) :
    applyOperation r (.string s) "toInt" [] location =
      pure (((Json.string s).toInteger?.map ofInt).getD .null) := by
  have hmem : .direct "toInt" (.alone fun v => (v.toInteger?.map .ofInt).getD .null) ∈
      Catalog.entries := by
    simp [Catalog.entries, Catalog.coercions]
  exact hr.applyOperation_alone hmem (by simp [numberingNames]) (by simp) location

/-- What coercing a text to a number gives. -/
theorem applyOperation_toNumber (s : String) (location : String) :
    applyOperation r (.string s) "toNumber" [] location =
      pure ((Json.string s).toNumber?.getD .null) := by
  have hmem : .direct "toNumber" (.alone fun v => v.toNumber?.getD .null) ∈ Catalog.entries := by
    simp [Catalog.entries, Catalog.coercions]
  exact hr.applyOperation_alone hmem (by simp [numberingNames]) (by simp) location

end Calls

/-- The decimal text of an integer of 64 bits with a sign, with any blanks around it, is always that
integer when it is coerced to an integer.  Coerced to a number it is the integer that the nearest
binary64 number stands for, or this number itself where the integer leaves the range.  So both
coercions give the integer exactly when it is a binary64 number, which all integers up to `2 ^ 53`
are. -/
theorem coerced_integer_texts {r : Registry} (hr : Registry.AgreeOn numberingNames .catalog r)
    (location : String) {n : Int} (hn : isSigned64 n) {before after : String}
    (hbefore : ∀ c ∈ before.toList, Text.isBlank c)
    (hafter : ∀ c ∈ after.toList, Text.isBlank c) :
    let text := Json.string (before ++ (ofInt n).compact ++ after)
    (text.toInteger? = some n ∧
      applyOperation r text "toInt" [] location = pure (ofInt n)) ∧
    (∃ x, Binary64.IsNearest n x ∧ ∃ whole : Int, x.value = whole ∧
      let result := if isSigned64 whole then ofInt whole else .number (.float x)
      text.toNumber? = some result ∧
      applyOperation r text "toNumber" [] location = pure result) ∧
    (text.toNumber? = some (ofInt n) ↔ ∃ x : Binary64, x.value = n) ∧
    (applyOperation r text "toNumber" [] location = applyOperation r text "toInt" [] location ↔
      ∃ x : Binary64, x.value = n) ∧
    (n.natAbs ≤ 2 ^ 53 → ∃ x : Binary64, x.value = n) := by
  intro text
  have htrim : Text.trim (before ++ (ofInt n).compact ++ after).toList =
      (Number.integer n).render := by
    have ht := NumeralText.wellFormed_ofInteger n
    rw [String.toList_append, String.toList_append, compact, String.toList_ofList, ofInt, render,
      ← NumeralText.characters_ofInteger]
    refine Text.trim_append hbefore hafter ht.trimmed ?_
    simp [NumeralText.ofInteger, NumeralText.characters, Nat.toDigits_ne_nil]
  have hinteger : text.toInteger? = some n := toInteger?_integerText hn htrim
  have hint : applyOperation r text "toInt" [] location = pure (ofInt n) := by
    rw [applyOperation_toInt hr, hinteger]
    rfl
  obtain ⟨x, hnearest, hvalue, hnumber⟩ := exists_toNumber?_integerText hn htrim
  have hiff := toNumber?_integerText_iff hn htrim
  refine ⟨⟨hinteger, hint⟩, ⟨x, hnearest, _, hvalue, hnumber, ?_⟩, hiff, ?_, ?_⟩
  · rw [applyOperation_toNumber hr, hnumber]
    rfl
  · rw [hint, applyOperation_toNumber hr, ← hiff, hnumber, Option.getD_some, Option.some.injEq]
    exact ⟨Run.pure_inj, congrArg pure⟩
  · intro hsmall
    have hsize : n.natAbs ≤ 2 ^ 64 := hsmall.trans (by decide)
    exact (Binary64.exists_value_eq_iff hsize).mpr (Binary64.nearestInt_of_le hsmall)

/-- The least integer of 64 bits with a sign is a binary64 number, so both coercions give it back,
also from between blanks. -/
theorem coerced_integer_texts_least :
    Registry.AgreeOn numberingNames .catalog .standard ∧ isSigned64 (-9223372036854775808) ∧
    (∀ c ∈ "\t ".toList, Text.isBlank c) ∧ (∀ c ∈ "\u2003\n".toList, Text.isBlank c) ∧
    applyOperation .standard (.string "\t -9223372036854775808\u2003\n") "toInt" [] ".id" =
      pure (ofInt (-9223372036854775808)) ∧
    applyOperation .standard (.string "\t -9223372036854775808\u2003\n") "toNumber" [] ".id" =
      pure (ofInt (-9223372036854775808)) := by
  have hsigned : isSigned64 (-9223372036854775808) := by decide
  have hbefore : ∀ c ∈ "\t ".toList, Text.isBlank c := List.all_eq_true.mp (by decide)
  have hafter : ∀ c ∈ "\u2003\n".toList, Text.isBlank c := List.all_eq_true.mp (by decide)
  have htext : "\t " ++ (ofInt (-9223372036854775808)).compact ++ "\u2003\n" =
      "\t -9223372036854775808\u2003\n" := by decide
  have hsize : (-9223372036854775808 : Int).natAbs ≤ 2 ^ 64 := by decide
  have hexact : ∃ x : Binary64, x.value = (-9223372036854775808 : Int) :=
    (Binary64.exists_value_eq_iff hsize).mpr rfl
  obtain ⟨⟨-, hint⟩, -, -, hagree, -⟩ :=
    coerced_integer_texts agreeOn_numberingNames ".id" hsigned hbefore hafter
  rw [htext] at hint hagree
  exact ⟨agreeOn_numberingNames, hsigned, hbefore, hafter, hint, (hagree.mpr hexact).trans hint⟩

/-- Coerced to numbers, the text of `9007199254740993` is the integer before it, and the text of
`9223372036854775807` is no integer at all. -/
theorem coerced_integer_texts_inexact :
    applyOperation .standard (.string "9007199254740993") "toInt" [] "" =
      pure (ofInt 9007199254740993) ∧
    applyOperation .standard (.string "9007199254740993") "toNumber" [] "" =
      pure (ofInt 9007199254740992) ∧
    (∃ x : Binary64, x.value = (9223372036854775808 : Int) ∧
      applyOperation .standard (.string "9223372036854775807") "toNumber" [] "" =
        pure (.number (.float x))) ∧
    ¬∀ n, isSigned64 n → (Json.string (ofInt n).compact).toNumber? = some (ofInt n) := by
  have hsigned : isSigned64 9007199254740993 := by decide
  have htrim : Text.trim "9007199254740993".toList =
      (Number.integer 9007199254740993).render := by decide
  have hlimit : Text.trim "9223372036854775807".toList =
      (Number.integer 9223372036854775807).render := by decide
  have hbefore : Binary64.nearestInt 9007199254740993 = 9007199254740992 := rfl
  have hbehind : Binary64.nearestInt 9223372036854775807 = 9223372036854775808 :=
    rfl
  obtain ⟨_, -, -, hnumber⟩ := exists_toNumber?_integerText hsigned htrim
  obtain ⟨x, -, hvalue, hfloat⟩ := exists_toNumber?_integerText (by decide) hlimit
  rw [hbefore, if_pos (by decide)] at hnumber
  rw [hbehind] at hvalue
  rw [hbehind, if_neg (by decide)] at hfloat
  refine ⟨?_, ?_, ⟨x, hvalue, ?_⟩, fun hkept => ?_⟩
  · rw [applyOperation_toInt agreeOn_numberingNames, toInteger?_integerText hsigned htrim]
    rfl
  · rw [applyOperation_toNumber agreeOn_numberingNames, hnumber]
    rfl
  · rw [applyOperation_toNumber agreeOn_numberingNames, hfloat]
    rfl
  · have htext : (ofInt 9007199254740993).compact = "9007199254740993" := rfl
    have hsame := hkept 9007199254740993 hsigned
    rw [htext, hnumber] at hsame
    exact absurd (Number.integer.inj (Json.number.inj (Option.some.inj hsame))) (by decide)

end Reshape
