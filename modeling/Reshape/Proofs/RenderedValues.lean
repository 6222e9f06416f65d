import Reshape.Json.Coercion
import Reshape.Proofs.LiteralGrammar

/-!
# Written values read back

The written form of a value is a literal that stands for the value.  The digits of a
decimal are laid out in four ways, which all keep its value, so a number reads back because
its shortest decimal does; a string reads back because each of its characters does,
however it is escaped; and arrays and objects read back because their parts do.

Main results:

- Theorem `Decimal.exists_layout`: every layout of a decimal keeps its value.
- Theorem `Number.exists_text_of_render`: a number is written as a numeral that stands for it.
- Theorem `Literal.isString_flatMap`: a string reads back for any escaping of characters.
- Theorem `Literal.derives_render`: the written form of a value stands for it.
- Theorem `Literal.parse?_compact`: the written form of a value is read as the value.
-/

namespace Reshape

/-! ## Digits -/

/-- The decimal digits of a number are digits. -/
theorem isDigits_toDigits (n : Nat) : IsDigits (Nat.toDigits 10 n) := fun _ hc =>
  Nat.isDigit_of_mem_toDigits (by decide) (by decide) hc

/-- The decimal digits of a number stand for it. -/
theorem natOfDigits_toDigits (n : Nat) : natOfDigits (Nat.toDigits 10 n) = n :=
  Nat.ofDigitChars_ten_toDigits

/-- What two runs of digits stand for together. -/
theorem natOfDigits_append (cs ds : List Char) :
    natOfDigits (cs ++ ds) = 10 ^ ds.length * natOfDigits cs + natOfDigits ds := by
  rw [natOfDigits, Nat.ofDigitChars_append, Nat.ofDigitChars_eq_ofDigitChars_zero]
  rfl

/-- Zeros stand for nothing. -/
theorem natOfDigits_zeros (n : Nat) : natOfDigits (List.replicate n '0') = 0 := by
  rw [natOfDigits, Nat.ofDigitChars_replicate_zero]
  simp

/-- Digits and zeros are digits. -/
theorem isDigits_append {cs ds : List Char} (hcs : IsDigits cs) (hds : IsDigits ds) :
    IsDigits (cs ++ ds) :=
  List.forall_mem_append.mpr ⟨hcs, hds⟩

/-- Zeros are digits. -/
theorem isDigits_zeros (n : Nat) : IsDigits (List.replicate n '0') := by
  intro c hc
  rw [List.eq_of_mem_replicate hc]
  decide

/-! ## Decimals -/

/-- A numeral that is written with a point or an exponent and has the value of a decimal. -/
structure NumeralText.LaysOut (t : NumeralText) (sign text : List Char) (d : Decimal) : Prop where
  wellFormed : t.WellFormed
  characters_eq : t.characters = sign ++ text
  sign_eq : t.sign = sign
  not_isInteger : ¬ t.IsInteger
  value_eq : t.numeral.decimal.value = d.value

namespace Decimal

open NumeralText

/-- Zeros behind the digits keep the value when the exponent makes up for them. -/
theorem value_eq_of_zeros {d d' : Decimal} (zeros : Nat)
    (hdigits : d'.digits = 10 ^ zeros * d.digits) (hexponent : d'.exponent = d.exponent - zeros) :
    d'.value = d.value := by
  have hten : (10 : ℚ) ≠ 0 := by norm_num
  rw [value, value, hdigits, hexponent, zpow_sub₀ hten, zpow_natCast, Nat.cast_mul, Nat.cast_pow,
    Nat.cast_ofNat]
  field_simp

variable {sign digits : List Char} {exponent : Int}

/-- All digits before the point, with zeros between them and the point. -/
theorem exists_layout_of_nonneg (hsign : IsSign sign) (hdigits : IsDigits digits)
    (h : 0 ≤ exponent) : ∃ t : NumeralText, t.LaysOut sign
      (digits ++ List.replicate exponent.toNat '0' ++ ['.', '0'])
      ⟨natOfDigits digits, exponent⟩ := by
  refine ⟨⟨sign, digits ++ List.replicate exponent.toNat '0', some ['0'], none⟩,
    ⟨hsign, isDigits_append hdigits (isDigits_zeros _), ?_, ?_, by simp⟩, ?_, rfl, ?_, ?_⟩
  · rintro fraction ⟨⟩
    exact isDigits_zeros 1
  · simp
  · simp [characters, fractionCharacters, exponentCharacters]
  · simp [IsInteger]
  · apply value_eq_of_zeros (exponent.toNat + 1)
    · have hzeros : digits ++ List.replicate exponent.toNat '0' ++ ['0'] =
          digits ++ List.replicate (exponent.toNat + 1) '0' := by
        rw [List.replicate_succ', List.append_assoc]
      change natOfDigits (digits ++ List.replicate exponent.toNat '0' ++ ['0']) = _
      rw [hzeros, natOfDigits_append, natOfDigits_zeros, List.length_replicate, Nat.add_zero]
    · simp only [Numeral.decimal, numeral, Option.getD_some, Option.map_none, Option.getD_none,
        List.length_singleton]
      omega

/-- Some of the digits before the point. -/
theorem exists_layout_of_split (hsign : IsSign sign) (hdigits : IsDigits digits)
    (hne : digits ≠ []) (h : exponent < 0) (hleading : 0 ≤ exponent + digits.length - 1) :
    ∃ t : NumeralText, t.LaysOut sign
      (digits.take ((exponent + digits.length - 1).toNat + 1) ++
        '.' :: digits.drop ((exponent + digits.length - 1).toNat + 1))
      ⟨natOfDigits digits, exponent⟩ := by
  generalize hn : (exponent + digits.length - 1).toNat + 1 = n
  refine ⟨⟨sign, digits.take n, some (digits.drop n), none⟩,
    ⟨hsign, fun c hc => hdigits c (List.mem_of_mem_take hc), ?_, ?_, by simp⟩, ?_, rfl, ?_, ?_⟩
  · rintro fraction ⟨⟩
    exact fun c hc => hdigits c (List.mem_of_mem_drop hc)
  · simpa using hne
  · simp [characters, fractionCharacters, exponentCharacters]
  · simp [IsInteger]
  · apply value_eq_of_zeros 0
    · simp [Numeral.decimal, numeral]
    · simp only [Numeral.decimal, numeral, Option.getD_some, Option.map_none, Option.getD_none,
        List.length_drop]
      omega

/-- All digits behind the point, with zeros between the point and them. -/
theorem exists_layout_of_neg (hsign : IsSign sign) (hdigits : IsDigits digits)
    (hleading : exponent + digits.length - 1 < 0) : ∃ t : NumeralText, t.LaysOut sign
      ('0' :: '.' :: List.replicate (-(exponent + digits.length - 1) - 1).toNat '0' ++ digits)
      ⟨natOfDigits digits, exponent⟩ := by
  generalize hn : (-(exponent + digits.length - 1) - 1).toNat = n
  refine ⟨⟨sign, ['0'], some (List.replicate n '0' ++ digits), none⟩,
    ⟨hsign, isDigits_zeros 1, ?_, by simp, by simp⟩, ?_, rfl, ?_, ?_⟩
  · rintro fraction ⟨⟩
    exact isDigits_append (isDigits_zeros n) hdigits
  · simp [characters, fractionCharacters, exponentCharacters]
  · simp [IsInteger]
  · apply value_eq_of_zeros 0
    · have hzeros : ['0'] ++ (List.replicate n '0' ++ digits) =
          List.replicate (n + 1) '0' ++ digits := rfl
      change natOfDigits (['0'] ++ (List.replicate n '0' ++ digits)) = _
      rw [hzeros, natOfDigits_append, natOfDigits_zeros]
      simp
    · simp only [Numeral.decimal, numeral, Option.getD_some, Option.map_none, Option.getD_none,
        List.length_append, List.length_replicate]
      omega

/-- A sign and the digits of a size are the exponent with that sign. -/
theorem exists_exponentText (leading : Int) : ∃ e : ExponentText, e.WellFormed ∧
    e.value = leading ∧ e.characters =
      'e' :: (if leading < 0 then '-' else '+') :: Nat.toDigits 10 leading.natAbs := by
  have hdigits := isDigits_toDigits leading.natAbs
  by_cases h : leading < 0
  · refine ⟨⟨'e', ['-'], Nat.toDigits 10 leading.natAbs⟩,
      ⟨.inl rfl, .inr (.inr rfl), hdigits, Nat.toDigits_ne_nil⟩, ?_, by rw [if_pos h]; rfl⟩
    rw [ExponentText.value, if_pos rfl, natOfDigits_toDigits]
    omega
  · refine ⟨⟨'e', ['+'], Nat.toDigits 10 leading.natAbs⟩,
      ⟨.inl rfl, .inr (.inl rfl), hdigits, Nat.toDigits_ne_nil⟩, ?_, by rw [if_neg h]; rfl⟩
    have hplus : ['+'] ≠ ['-'] := by decide
    rw [ExponentText.value, if_neg hplus, natOfDigits_toDigits]
    omega

/-- One digit before the point, and the exponent of that digit. -/
theorem exists_layout_of_scientific (hsign : IsSign sign) (hdigits : IsDigits digits)
    (hne : digits ≠ []) : ∃ t : NumeralText, t.LaysOut sign
      (renderScientific digits (exponent + digits.length - 1))
      ⟨natOfDigits digits, exponent⟩ := by
  rcases exists_exponentText (exponent + digits.length - 1) with ⟨e, he, hvalue, hcharacters⟩
  rcases List.exists_cons_of_ne_nil hne with ⟨c, ds, rfl⟩
  obtain ⟨hc, hds⟩ := List.forall_mem_cons.mp hdigits
  -- A fraction without digits is left out with its point.
  obtain ⟨fraction?, hfraction, hpoint⟩ : ∃ fraction? : Option (List Char),
      fraction?.getD [] = ds ∧
        fractionCharacters fraction? = if ds.isEmpty then [] else '.' :: ds := by
    cases ds with
    | nil => exact ⟨none, rfl, rfl⟩
    | cons d ds => exact ⟨some (d :: ds), rfl, rfl⟩
  refine ⟨⟨sign, [c], fraction?, some e⟩,
    ⟨hsign, List.forall_mem_singleton.mpr hc, ?_, by simp, ?_⟩, ?_, rfl, by simp [IsInteger], ?_⟩
  · rintro digits ⟨⟩
    rwa [← hfraction] at hds
  · rintro e' ⟨⟩
    exact he
  · simp [characters, renderScientific, exponentCharacters, hpoint, hcharacters]
  · apply value_eq_of_zeros 0
    · simp [Numeral.decimal, numeral, hfraction]
    · simp only [Numeral.decimal, numeral, Option.map_some, Option.getD_some, hfraction, hvalue,
        List.length_cons]
      omega

/-- Every layout of a decimal has its value. -/
theorem exists_layout (hsign : IsSign sign) (d : Decimal) :
    ∃ t : NumeralText, t.LaysOut sign d.render d := by
  obtain ⟨n, exponent⟩ := d
  have hdigits := isDigits_toDigits n
  have hne : Nat.toDigits 10 n ≠ [] := Nat.toDigits_ne_nil
  have hn := natOfDigits_toDigits n
  unfold render renderPositional
  dsimp only
  generalize Nat.toDigits 10 n = digits at *
  subst hn
  split
  · split
    · rename_i hexponent
      exact exists_layout_of_nonneg hsign hdigits hexponent
    · rename_i hexponent
      split
      · rename_i hleading
        exact exists_layout_of_split hsign hdigits hne (not_le.mp hexponent) hleading
      · rename_i hleading
        exact exists_layout_of_neg hsign hdigits (not_le.mp hleading)
  · exact exists_layout_of_scientific hsign hdigits hne

end Decimal

/-! ## Numbers -/

namespace NumeralText

/-- How an integer is written. -/
def ofInteger (n : Int) : NumeralText :=
  ⟨if n < 0 then ['-'] else [], Nat.toDigits 10 n.natAbs, none, none⟩

/-- A minus sign or none and digits make a numeral. -/
theorem wellFormed_ofInteger (n : Int) : (ofInteger n).WellFormed := by
  have hsign : IsSign (if n < 0 then ['-'] else []) := by
    split
    · exact .inr (.inr rfl)
    · exact .inl rfl
  exact ⟨hsign, isDigits_toDigits _, by simp [ofInteger],
    by simp [ofInteger, Nat.toDigits_ne_nil], by simp [ofInteger]⟩

/-- The characters of a written integer. -/
theorem characters_ofInteger (n : Int) :
    (ofInteger n).characters = (Number.integer n).render := by
  simp [ofInteger, characters, fractionCharacters, exponentCharacters, Number.render]

/-- A negative integer is written with a minus sign, and no other one is. -/
theorem negative_ofInteger (n : Int) : (ofInteger n).numeral.negative = decide (n < 0) := by
  by_cases hn : n < 0 <;> simp [ofInteger, numeral, hn]

/-- A written integer stands for itself. -/
theorem toInt_ofInteger (n : Int) : (ofInteger n).toInt = n := by
  have hwhole : (ofInteger n).numeral.whole = Nat.toDigits 10 n.natAbs := rfl
  simp only [toInt, Numeral.toInt, negative_ofInteger, hwhole, natOfDigits_toDigits,
    decide_eq_true_eq]
  split <;> omega

end NumeralText

/-- A number is written as a numeral that stands for it. -/
theorem Number.exists_text_of_render {x : Number} (h : x.Valid) :
    ∃ t : NumeralText, t.WellFormed ∧ t.characters = x.render ∧ t.Denotes x := by
  cases x with
  | integer n =>
    refine ⟨.ofInteger n, NumeralText.wellFormed_ofInteger n,
      NumeralText.characters_ofInteger n, ?_⟩
    have hfits : (NumeralText.ofInteger n).IsInteger :=
      ⟨⟨rfl, rfl⟩, by rwa [NumeralText.toInt_ofInteger]⟩
    have hdenotes := NumeralText.Denotes.integer hfits
    rwa [NumeralText.toInt_ofInteger] at hdenotes
  | float x =>
    have hsign : IsSign (if x.negative then ['-'] else []) := by
      split
      · exact .inr (.inr rfl)
      · exact .inl rfl
    rcases Decimal.exists_layout hsign x.shortest with ⟨t, ht⟩
    have hnegative : x.negative = (t.sign == ['-']) := by
      rw [ht.sign_eq]
      cases x.negative <;> rfl
    refine ⟨t, ht.wellFormed, ht.characters_eq, .float ht.not_isInteger hnegative ?_⟩
    have hnearest := (Decimal.toExtended_eq_finite_iff.mp x.toExtended_shortest).2
    rw [NumeralText.value, ht.value_eq]
    rwa [hnegative] at hnearest

/-! ## Strings -/

namespace Literal

/-- Characters spelled one by one. -/
theorem spells_flatMap {r : StringRules} {quote : Char} {escaped : Char → List Char}
    (h : ∀ c body value, Spells r quote body value →
      Spells r quote (escaped c ++ body) (c :: value)) (cs : List Char) :
    Spells r quote (cs.flatMap escaped) cs := by
  induction cs with
  | nil => exact .nil
  | cons c cs ih =>
    rw [List.flatMap_cons]
    exact h c _ cs ih

/-- An escape with four digits spells the character with that number. -/
theorem spells_unit {quote : Char} {digits body value : List Char} {c : Char}
    (hquad : IsHexQuad digits c.toNat) (h : Spells (stringRules IsHexQuad) quote body value) :
    Spells (stringRules IsHexQuad) quote ('\\' :: 'u' :: digits ++ body) (c :: value) := by
  have hsurrogate : ¬ IsSurrogate c.toNat := by
    have hvalid : c.toNat < 0xd800 ∨ 0xdfff < c.toNat ∧ c.toNat < 0x110000 := c.valid
    unfold IsSurrogate
    omega
  have hescape : IsEscape IsHexQuad ('u' :: digits) [c] := by
    have hunit := IsCommonEscape.unit hquad hsurrogate
    rw [Char.ofNat_toNat] at hunit
    exact .common hunit
  exact .escape hescape h

/-- The digits of a control. -/
theorem isHexQuad_control {n : Nat} (h : n < 0x20) :
    IsHexQuad ['0', '0', Nat.digitChar (n / 16), Nat.digitChar (n % 16)] n := by
  have hall : ∀ n < 0x20, natOfHex? ['0', '0', Nat.digitChar (n / 16), Nat.digitChar (n % 16)] =
      some n := by decide
  exact ⟨rfl, hall n h⟩

/-- An escaped character spells the character between double quotes. -/
theorem spells_escape (c : Char) {body value : List Char}
    (h : Spells (stringRules IsHexQuad) '"' body value) :
    Spells (stringRules IsHexQuad) '"' (Json.escape c ++ body) (c :: value) := by
  have hletter : ∀ {d e : Char}, (d, e) ∈ letterMeanings →
      Spells (stringRules IsHexQuad) '"' ('\\' :: d :: body) (e :: value) := by
    intro d e hmem
    have hescape : IsEscape IsHexQuad [d] [e] := .common (.letter hmem)
    exact .escape hescape h
  unfold Json.escape
  split
  · exact hletter (by decide)
  · exact hletter (by decide)
  · exact hletter (by decide)
  · exact hletter (by decide)
  · exact hletter (by decide)
  · exact hletter (by decide)
  · exact hletter (by decide)
  · rename_i hquote hbackslash _ _ _ _ _
    split
    · rename_i hcontrol
      exact spells_unit (isHexQuad_control hcontrol) h
    · exact .plain hquote hbackslash trivial h

/-- A text between double quotes stands for the string whose characters it spells. -/
theorem isString_flatMap {escaped : Char → List Char}
    (h : ∀ c body value, Spells (stringRules IsHexQuad) '"' body value →
      Spells (stringRules IsHexQuad) '"' (escaped c ++ body) (c :: value)) (s : String) :
    (stringRules IsHexQuad).IsString quotes ('"' :: s.toList.flatMap escaped ++ ['"']) s :=
  ⟨'"', by simp [quotes], s.toList.flatMap escaped, s.toList, spells_flatMap h s.toList, rfl,
    String.ofList_toList.symm⟩

/-- A written string stands for the string. -/
theorem isString_renderString (s : String) :
    (stringRules IsHexQuad).IsString quotes (Json.renderString s) s :=
  isString_flatMap (fun c _ _ h => spells_escape c h) s

/-! ## Values -/

/-- The value of a slot without blanks. -/
theorem derives_slot {g : Grammar} {depth : Option Nat} {v : Json} {text : List Char}
    (h : g.Derives depth (.value v) text) : g.Derives depth (.slot v) text := by
  have hslot := Grammar.Derives.slot g.blanks_nil h g.blanks_nil
  rwa [List.nil_append, List.append_nil] at hslot

/-- A written string is a name without blanks around it. -/
theorem label_renderString (name : String) :
    (grammar IsHexQuad).Label name (Json.renderString name) := by
  exact ⟨[], Json.renderString name, [], Grammar.blanks_nil _, isString_renderString name,
    Grammar.blanks_nil _, by simp⟩

mutual

/-- The written form of a value stands for it. -/
theorem derives_render : ∀ v : Json, v.Valid →
    (grammar IsHexQuad).Derives none (.value v) v.render
  | .null, _ =>
    have hword : ("null", .null) ∈ words := by simp [words]
    .scalar (.word hword)
  | .bool true, _ =>
    have hword : ("true", .bool true) ∈ words := by simp [words]
    .scalar (.word hword)
  | .bool false, _ =>
    have hword : ("false", .bool false) ∈ words := by simp [words]
    .scalar (.word hword)
  | .number x, h => by
    rcases Number.exists_text_of_render h with ⟨t, ht, hcharacters, hdenotes⟩
    rw [Json.render, ← hcharacters]
    exact .scalar (.number ht hdenotes)
  | .string s, _ => .scalar (.string (isString_renderString s))
  | .array [], _ => .emptyArray rfl (Grammar.blanks_nil _)
  | .array (item :: items), h => by
    have hitems := derives_renderItems (item :: items) h (by simp)
    rw [Json.render]
    exact .array rfl hitems
  | .object [], _ => .emptyObject rfl (Grammar.blanks_nil _)
  | .object ((name, value) :: fields), h => by
    have hfields := derives_renderFields ((name, value) :: fields) h.2 (by simp)
    rw [Json.render]
    exact .object rfl hfields h.1.collects

/-- Written items stand for the items, once the first comma is taken off. -/
theorem derives_renderItems : ∀ items : List Json, Json.ValidItems items → items ≠ [] →
    (grammar IsHexQuad).Derives none (.items items) (Json.renderItems items).tail
  | [], _, h => absurd rfl h
  | [item], h, _ => .lastItem (derives_slot (derives_render item h.1)) (.inl rfl)
  | item :: other :: items, h, _ =>
    .items (derives_slot (derives_render item h.1))
      (derives_renderItems (other :: items) h.2 (by simp))

/-- Written fields stand for the fields, once the first comma is taken off. -/
theorem derives_renderFields : ∀ fields : List (String × Json), Json.ValidFields fields →
    fields ≠ [] →
    (grammar IsHexQuad).Derives none (.fields fields) (Json.renderFields fields).tail
  | [], _, h => absurd rfl h
  | [(name, value)], h, _ => by
    have hfield := Grammar.Derives.lastField (label_renderString name)
      (derives_slot (derives_render value h.1)) (.inl rfl)
    simpa [Json.renderFields] using hfield
  | (name, value) :: other :: fields, h, _ => by
    have hfields := Grammar.Derives.fields (label_renderString name)
      (derives_slot (derives_render value h.1))
      (derives_renderFields (other :: fields) h.2 (by simp))
    simpa [Json.renderFields] using hfields

end

/-- A text that stands for a value without blanks around it is read as the value. -/
theorem parse?_of_derives {v : Json} {text : List Char}
    (h : (grammar IsHexQuad).Derives none (.value v) text) :
    parse? (String.ofList text) = some v := by
  apply parse?_of_denotes
  rw [Denotes, String.toList_ofList]
  exact derives_slot h

/-- Values that are written in the same way are the same. -/
theorem eq_of_render_eq {v w : Json} (hv : v.Valid) (hw : w.Valid) (h : v.render = w.render) :
    v = w := by
  have hread := parse?_of_derives (derives_render v hv)
  rw [h, parse?_of_derives (derives_render w hw)] at hread
  exact (Option.some.inj hread).symm

/-- The written form of a value is read as the value, and so is the text of everything but
null and the strings. -/
theorem parse?_compact {v : Json} (h : v.Valid) :
    parse? v.compact = some v ∧
      (v.isNull = false → v.string? = none →
        ∃ text, v.toText? = some text ∧ parse? text = some v) := by
  have hread : parse? v.compact = some v := parse?_of_derives (derives_render v h)
  refine ⟨hread, fun hnull hstring => ⟨v.compact, ?_, hread⟩⟩
  cases v with
  | null => contradiction
  | string s => contradiction
  | bool _ | number _ | array _ | object _ => rfl

/-- A value with the negative zero, the ends of the range of integers, the least number and
strings that have to be escaped. -/
def mixedValue : Json :=
  .object [
    ("", .array [.number (.float (.zero true)), .number (.integer (-9223372036854775808)),
      .number (.integer 18446744073709551615),
      .number (.float ⟨true, 9007199254740991, 2045, by decide, by decide, by decide⟩), .null]),
    ("\"\\\n\x01", .object [("'", .string "\u00e9$ \t"), ("[", .array []), ("\x7b", .object [])])]

/-- The value is read from its written form and from its text. -/
theorem parse?_compact_mixedValue :
    mixedValue.Valid ∧ parse? mixedValue.compact = some mixedValue ∧
      ∃ text, mixedValue.toText? = some text ∧ parse? text = some mixedValue := by
  have hvalid : mixedValue.Valid := by
    simp only [mixedValue, Json.Valid, Json.ValidFields, Json.ValidItems, Number.Valid,
      Fields.Sorted, List.pairwise_cons, List.Pairwise.nil, List.mem_cons, List.not_mem_nil,
      or_false, forall_eq_or_imp, forall_eq, false_implies, implies_true]
    decide
  have hread := parse?_compact hvalid
  exact ⟨hvalid, hread.1, hread.2 rfl rfl⟩

end Literal

end Reshape
