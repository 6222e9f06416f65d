import Reshape.Expression.Literal
import Reshape.Json.Document
import Reshape.Proofs.Layout
import Reshape.Proofs.NearestDecimals

/-!
# Texts of numerals

A numeral is written as a sign, digits with a point among them, and an exponent, of which
all but one digit may be missing.  Both notations of values read the longest such text at
the front of what they are given; the strict one takes fewer of them.  What a numeral
stands for is told by its parts: the integer that is written, when it has neither a point
nor an exponent and fits 64 bits, and otherwise the nearest binary64 number.

Main results:

- Structure `NumeralText`: how a numeral is written.
- Theorems `Numeral.exists_text_of_read?`, `Numeral.read?_characters`: the lenient reader
  takes the well-formed texts.
- Theorems `Document.exists_text_of_readNumeral?`, `Document.readNumeral?_characters`: the
  strict reader takes the strict ones.
- Theorem `Literal.number?_eq_some_iff`: the number that a numeral stands for.
-/

namespace Reshape

/-! ## Digits and signs -/

/-- A text of digits. -/
def IsDigits (cs : List Char) : Prop :=
  ∀ c ∈ cs, c.isDigit

instance (cs : List Char) : Decidable (IsDigits cs) :=
  List.decidableBAll _ cs

/-- Among digits there is nothing else. -/
theorem IsDigits.notMem {digits : List Char} (h : IsDigits digits) {c : Char}
    (hc : ¬c.isDigit) : c ∉ digits :=
  fun hmem => hc (h c hmem)

/-- A text at whose start no digits run on. -/
def EndsDigits (cs : List Char) : Prop :=
  ∀ c ∈ cs.head?, c.isDigit = false

/-- A sign in front of digits, or none. -/
def IsSign (cs : List Char) : Prop :=
  cs = [] ∨ cs = ['+'] ∨ cs = ['-']

/-- Digits are read up to where they end. -/
theorem digitRun_digits {digits cs : List Char} (h : IsDigits digits) (hcs : EndsDigits cs) :
    digitRun (digits ++ cs) = (digits, cs) := by
  rcases Token.takeWhile_dropWhile_run h hcs with ⟨htake, hdrop⟩
  rw [digitRun, htake, hdrop]

/-- What is read as digits are digits. -/
theorem isDigits_digitRun (cs : List Char) : IsDigits (digitRun cs).1 :=
  fun _ hc => List.mem_takeWhile_imp hc

/-- A sign is read in front of anything but another sign. -/
theorem signRun_sign {sign cs : List Char} (h : IsSign sign)
    (hcs : ∀ c ∈ cs.head?, c ≠ '+' ∧ c ≠ '-') : signRun (sign ++ cs) = (sign == ['-'], cs) := by
  rcases h with rfl | rfl | rfl
  · cases cs with
    | nil => rfl
    | cons c cs =>
      obtain ⟨hplus, hminus⟩ := hcs c rfl
      unfold signRun
      split <;> simp_all
  · rfl
  · rfl

/-- What is read as a sign is one. -/
theorem exists_sign (cs : List Char) :
    ∃ sign, IsSign sign ∧ cs = sign ++ (signRun cs).2 ∧ (signRun cs).1 = (sign == ['-']) := by
  unfold signRun
  split
  · exact ⟨['-'], .inr (.inr rfl), rfl, rfl⟩
  · exact ⟨['+'], .inr (.inl rfl), rfl, rfl⟩
  · exact ⟨[], .inl rfl, rfl, rfl⟩

/-! ## Texts -/

/-- How the exponent of a numeral is written. -/
structure ExponentText where
  mark : Char
  sign : List Char
  digits : List Char

namespace ExponentText

/-- A mark, a sign and at least one digit. -/
structure WellFormed (e : ExponentText) : Prop where
  mark : e.mark = 'e' ∨ e.mark = 'E'
  sign : IsSign e.sign
  digits : IsDigits e.digits
  digits_ne_nil : e.digits ≠ []

/-- The characters of an exponent. -/
def characters (e : ExponentText) : List Char :=
  e.mark :: e.sign ++ e.digits

/-- The integer that is written as an exponent. -/
def value (e : ExponentText) : Int :=
  if e.sign = ['-'] then -(natOfDigits e.digits : Int) else natOfDigits e.digits

end ExponentText

/-- How a numeral is written.  A missing fraction has no point either. -/
structure NumeralText where
  sign : List Char
  whole : List Char
  fraction? : Option (List Char)
  exponent? : Option ExponentText

namespace NumeralText

/-- The digits on both sides of the point are digits, and there is one at least. -/
structure WellFormed (t : NumeralText) : Prop where
  sign : IsSign t.sign
  whole : IsDigits t.whole
  fraction : ∀ digits ∈ t.fraction?, IsDigits digits
  digits_ne_nil : t.whole ++ t.fraction?.getD [] ≠ []
  exponent : ∀ e ∈ t.exponent?, e.WellFormed

/-- What the strict notation asks for besides: no plus sign, no zero before another digit,
and digits on both sides of a point. -/
structure Strict (t : NumeralText) : Prop where
  sign : t.sign ≠ ['+']
  whole : Document.isWhole t.whole
  fraction : t.fraction? ≠ some []

/-- A point and the digits behind it. -/
def fractionCharacters : Option (List Char) → List Char
  | none => []
  | some digits => '.' :: digits

/-- The characters of an exponent, if there is one. -/
def exponentCharacters : Option ExponentText → List Char
  | none => []
  | some e => e.characters

/-- The characters of a numeral. -/
def characters (t : NumeralText) : List Char :=
  t.sign ++ (t.whole ++ (fractionCharacters t.fraction? ++ exponentCharacters t.exponent?))

/-- The parts of a numeral that count for what it stands for. -/
def numeral (t : NumeralText) : Numeral where
  negative := t.sign == ['-']
  whole := t.whole
  fraction := t.fraction?.getD []
  exponent := (t.exponent?.map ExponentText.value).getD 0
  integral := t.fraction?.isNone && t.exponent?.isNone

/-- A text at whose start no numeral runs on. -/
def Ends (cs : List Char) : Prop :=
  ∀ c ∈ cs.head?, c.isDigit = false ∧ c ∉ ['.', 'e', 'E']

/-- The digits of a numeral do not run on either. -/
theorem Ends.endsDigits {cs : List Char} (h : Ends cs) : EndsDigits cs :=
  fun c hc => (h c hc).1

/-- Behind the fraction stands no digit and no point. -/
theorem head_exponentCharacters {exponent? : Option ExponentText} {rest : List Char}
    (h : ∀ e ∈ exponent?, e.WellFormed) (hrest : Ends rest) :
    ∀ c ∈ (exponentCharacters exponent? ++ rest).head?, c.isDigit = false ∧ c ≠ '.' := by
  cases exponent? with
  | none =>
    intro c hc
    obtain ⟨hdigit, hmark⟩ := hrest c hc
    exact ⟨hdigit, by simp_all⟩
  | some e =>
    intro c hc
    obtain rfl : e.mark = c := by simpa [exponentCharacters, ExponentText.characters] using hc
    rcases (h e rfl).mark with hmark | hmark <;> rw [hmark] <;> decide

/-- Behind the digits before the point stands no digit. -/
theorem endsDigits_fractionCharacters {t : NumeralText} (h : t.WellFormed) {rest : List Char}
    (hrest : Ends rest) : EndsDigits
      (fractionCharacters t.fraction? ++ (exponentCharacters t.exponent? ++ rest)) := by
  cases t.fraction? with
  | none => exact fun c hc => (head_exponentCharacters h.exponent hrest c hc).1
  | some digits =>
    intro c hc
    obtain rfl : '.' = c := by simpa [fractionCharacters] using hc
    rfl

/-- Behind the sign stands no other sign. -/
theorem head_whole_append {t : NumeralText} (h : t.WellFormed) (rest : List Char) :
    ∀ c ∈ (t.whole ++ (fractionCharacters t.fraction? ++ rest)).head?, c ≠ '+' ∧ c ≠ '-' := by
  have hsign : ∀ c : Char, c.isDigit → c ≠ '+' ∧ c ≠ '-' := by
    rintro c hdigit
    constructor <;> rintro rfl <;> contradiction
  intro c hc
  cases hwhole : t.whole with
  | cons d whole =>
    obtain rfl : d = c := by simpa [hwhole] using hc
    exact hsign d (h.whole d (by simp [hwhole]))
  | nil =>
    -- Without digits before the point there is a point.
    have hne := h.digits_ne_nil
    cases hfraction : t.fraction? with
    | none => simp [hwhole, hfraction] at hne
    | some digits =>
      obtain rfl : '.' = c := by simpa [hwhole, hfraction, fractionCharacters] using hc
      decide

/-- The characters of a numeral and what stands behind them, one part after the other. -/
theorem characters_append (t : NumeralText) (rest : List Char) :
    t.characters ++ rest = t.sign ++ (t.whole ++ (fractionCharacters t.fraction? ++
      (exponentCharacters t.exponent? ++ rest))) := by
  simp [characters]

end NumeralText

/-! ## The lenient reader -/

namespace Numeral

open NumeralText

/-- A fraction is read in front of anything that is neither a digit nor a point. -/
theorem readFraction_characters {fraction? : Option (List Char)} {cs : List Char}
    (h : ∀ digits ∈ fraction?, IsDigits digits)
    (hcs : ∀ c ∈ cs.head?, c.isDigit = false ∧ c ≠ '.') :
    readFraction (fractionCharacters fraction? ++ cs) = (fraction?, cs) := by
  cases fraction? with
  | none =>
    unfold readFraction fractionCharacters
    split
    · exact absurd rfl (hcs '.' (by simp_all)).2
    · rfl
  | some digits =>
    have hdigits := digitRun_digits (h digits rfl) fun c hc => (hcs c hc).1
    simp [readFraction, fractionCharacters, hdigits]

/-- What is read as a fraction is one. -/
theorem readFraction_spec (cs : List Char) :
    cs = fractionCharacters (readFraction cs).1 ++ (readFraction cs).2 ∧
      ∀ digits ∈ (readFraction cs).1, IsDigits digits := by
  unfold readFraction
  split
  · rename_i rest
    refine ⟨?_, fun digits hdigits => ?_⟩
    · simp [fractionCharacters, digitRun_append]
    · obtain rfl : (digitRun rest).1 = digits := by simpa using hdigits
      exact isDigits_digitRun rest
  · exact ⟨rfl, by simp⟩

/-- An exponent is read in front of anything at which no numeral runs on. -/
theorem readExponent?_characters {exponent? : Option ExponentText} {rest : List Char}
    (h : ∀ e ∈ exponent?, e.WellFormed) (hrest : Ends rest) :
    readExponent? (exponentCharacters exponent? ++ rest) =
      some (exponent?.map ExponentText.value, rest) := by
  cases exponent? with
  | none =>
    cases rest with
    | nil => rfl
    | cons c rest =>
      have hmark := (hrest c rfl).2
      have hc : ¬ (c = 'e' ∨ c = 'E') := by
        rintro (rfl | rfl) <;> contradiction
      simp [exponentCharacters, readExponent?, hc]
  | some e =>
    obtain ⟨hmark, hsign, hdigits, hne⟩ := h e rfl
    have hhead : ∀ c ∈ (e.digits ++ rest).head?, c ≠ '+' ∧ c ≠ '-' := by
      intro c hc
      rcases List.exists_cons_of_ne_nil hne with ⟨d, ds, hds⟩
      obtain rfl : d = c := by simpa [hds] using hc
      have hdigit := hdigits d (by simp [hds])
      constructor <;> rintro rfl <;> contradiction
    have hempty : e.digits.isEmpty = false := by simpa using hne
    have hcs : exponentCharacters (some e) ++ rest = e.mark :: (e.sign ++ (e.digits ++ rest)) := by
      simp [exponentCharacters, ExponentText.characters]
    simp only [hcs, readExponent?, if_pos hmark, signRun_sign hsign hhead,
      digitRun_digits hdigits hrest.endsDigits, hempty, Bool.false_eq_true, if_false,
      Option.map_some, ExponentText.value, beq_iff_eq]

/-- What is read as an exponent is one. -/
theorem exists_text_of_readExponent? {cs rest : List Char} {exponent? : Option Int}
    (h : readExponent? cs = some (exponent?, rest)) :
    ∃ e? : Option ExponentText, (∀ e ∈ e?, e.WellFormed) ∧ cs = exponentCharacters e? ++ rest ∧
      exponent? = e?.map ExponentText.value := by
  unfold readExponent? at h
  split at h
  · rename_i c tail
    split at h
    · rename_i hmark
      rcases exists_sign tail with ⟨sign, hsign, htail, hnegative⟩
      dsimp only at h
      split at h
      · contradiction
      · rename_i hne
        obtain ⟨rfl, rfl⟩ := Prod.mk.inj (Option.some.inj h)
        refine ⟨some ⟨c, sign, (digitRun (signRun tail).2).1⟩, ?_, ?_, ?_⟩
        · rintro e ⟨⟩
          exact ⟨hmark, hsign, isDigits_digitRun _, by simpa using hne⟩
        · nth_rewrite 1 [htail]
          simp [exponentCharacters, ExponentText.characters, digitRun_append]
        · simp [ExponentText.value, hnegative]
    · obtain ⟨rfl, rfl⟩ := Prod.mk.inj (Option.some.inj h)
      exact ⟨none, by simp, rfl, rfl⟩
  · obtain ⟨rfl, rfl⟩ := Prod.mk.inj (Option.some.inj h)
    exact ⟨none, by simp, rfl, rfl⟩

/-- A well-formed text is read as its numeral, unless the numeral runs on. -/
theorem read?_characters {t : NumeralText} (h : t.WellFormed) {rest : List Char}
    (hrest : Ends rest) : read? (t.characters ++ rest) = some (t.numeral, rest) := by
  have hempty : (t.whole.isEmpty && (t.fraction?.getD []).isEmpty) = false := by
    have hne := h.digits_ne_nil
    rw [Bool.eq_false_iff]
    simpa [List.append_eq_nil_iff] using hne
  unfold read?
  rw [characters_append]
  simp only [signRun_sign h.sign (head_whole_append h _),
    digitRun_digits h.whole (endsDigits_fractionCharacters h hrest),
    readFraction_characters h.fraction (head_exponentCharacters h.exponent hrest), hempty,
    readExponent?_characters h.exponent hrest, Bool.false_eq_true, if_false, Option.map_some]
  simp [numeral]

/-- What is read as a numeral is written as one. -/
theorem exists_text_of_read? {cs rest : List Char} {n : Numeral} (h : read? cs = some (n, rest)) :
    ∃ t : NumeralText, t.WellFormed ∧ cs = t.characters ++ rest ∧ t.numeral = n := by
  rcases exists_sign cs with ⟨sign, hsign, hcs, hnegative⟩
  unfold read? at h
  dsimp only at h
  obtain ⟨hfraction, hdigits⟩ := readFraction_spec (digitRun (signRun cs).2).2
  split at h
  · contradiction
  · rename_i hne
    rcases Option.map_eq_some_iff.mp h with ⟨⟨exponent?, after⟩, hexponent, h⟩
    obtain ⟨rfl, rfl⟩ := Prod.mk.inj h
    rcases exists_text_of_readExponent? hexponent with ⟨e?, he, hafter, rfl⟩
    refine ⟨⟨sign, (digitRun (signRun cs).2).1, (readFraction (digitRun (signRun cs).2).2).1, e?⟩,
      ⟨hsign, isDigits_digitRun _, hdigits, ?_, he⟩, ?_, ?_⟩
    · simpa [List.append_eq_nil_iff] using hne
    · rw [characters_append, ← hafter, ← hfraction, digitRun_append]
      exact hcs
    · simp [numeral, hnegative]

end Numeral

/-! ## The strict reader -/

namespace Document

open NumeralText

/-- In front of digits a minus sign is read like any sign. -/
theorem readMinus_eq_signRun {cs : List Char} (h : (digitRun (readMinus cs).2).1 ≠ []) :
    readMinus cs = signRun cs ∧ cs.head? ≠ some '+' := by
  unfold readMinus signRun at *
  split
  · exact ⟨rfl, by simp⟩
  · rename_i hminus
    split
    · rename_i rest
      exact absurd rfl (hminus rest)
    · simp [digitRun] at h
    · rename_i hplus
      refine ⟨rfl, ?_⟩
      cases cs with
      | nil => simp
      | cons c rest =>
        rintro ⟨⟩
        exact hplus rest rfl

/-- No sign or a minus sign is read in front of anything but a minus sign. -/
theorem readMinus_sign {sign cs : List Char} (h : IsSign sign) (hplus : sign ≠ ['+'])
    (hcs : ∀ c ∈ cs.head?, c ≠ '-') : readMinus (sign ++ cs) = (sign == ['-'], cs) := by
  rcases h with rfl | rfl | rfl
  · rw [List.nil_append]
    unfold readMinus
    split
    · exact absurd rfl (hcs '-' rfl)
    · rfl
  · contradiction
  · rfl

/-- Digits that can stand before the point are not missing. -/
theorem ne_nil_of_isWhole {digits : List Char} (h : isWhole digits) : digits ≠ [] := by
  rintro rfl
  contradiction

/-- A strict text is read as its numeral, unless the numeral runs on. -/
theorem readNumeral?_characters {t : NumeralText} (h : t.WellFormed) (hstrict : t.Strict)
    {rest : List Char} (hrest : Ends rest) :
    readNumeral? (t.characters ++ rest) = some (t.numeral, rest) := by
  have hdigits := digitRun_digits h.whole (endsDigits_fractionCharacters h hrest)
  have hminus := readMinus_sign h.sign hstrict.sign fun c hc =>
    (head_whole_append h (exponentCharacters t.exponent? ++ rest) c hc).2
  have hfraction : (t.fraction? == some []) = false := by simpa using hstrict.fraction
  unfold readNumeral?
  rw [characters_append]
  simp only [hminus, hdigits, hstrict.whole, hfraction,
    Numeral.readFraction_characters h.fraction (head_exponentCharacters h.exponent hrest),
    Numeral.readExponent?_characters h.exponent hrest, Bool.not_true, Bool.or_false,
    Bool.false_eq_true, if_false, Option.map_some]
  simp [numeral]

/-- What the strict reader takes is written strictly. -/
theorem exists_text_of_readNumeral? {cs rest : List Char} {n : Numeral}
    (h : readNumeral? cs = some (n, rest)) :
    ∃ t : NumeralText, t.WellFormed ∧ t.Strict ∧ cs = t.characters ++ rest ∧ t.numeral = n := by
  unfold readNumeral? at h
  dsimp only at h
  split at h
  · contradiction
  · rename_i hstrict
    simp only [Bool.or_eq_true, Bool.not_eq_true', beq_iff_eq, not_or, Bool.not_eq_false] at hstrict
    obtain ⟨hwhole, hpoint⟩ := hstrict
    obtain ⟨hminus, hplus⟩ := readMinus_eq_signRun (ne_nil_of_isWhole hwhole)
    rw [hminus] at hwhole hpoint h
    rcases exists_sign cs with ⟨sign, hsign, hcs, hnegative⟩
    obtain ⟨hfraction, hdigits⟩ := Numeral.readFraction_spec (digitRun (signRun cs).2).2
    rcases Option.map_eq_some_iff.mp h with ⟨⟨exponent?, after⟩, hexponent, h⟩
    obtain ⟨rfl, rfl⟩ := Prod.mk.inj h
    rcases Numeral.exists_text_of_readExponent? hexponent with ⟨e?, he, hafter, rfl⟩
    refine ⟨⟨sign, (digitRun (signRun cs).2).1,
      (Numeral.readFraction (digitRun (signRun cs).2).2).1, e?⟩,
      ⟨hsign, isDigits_digitRun _, hdigits, ?_, he⟩, ⟨?_, hwhole, hpoint⟩, ?_, ?_⟩
    · simpa [List.append_eq_nil_iff] using fun hnil => absurd hnil (ne_nil_of_isWhole hwhole)
    · rintro rfl
      rw [hcs] at hplus
      simp at hplus
    · rw [characters_append, ← hafter, ← hfraction, digitRun_append]
      exact hcs
    · simp [numeral, hnegative]

end Document

/-! ## Numbers -/

namespace NumeralText

/-- The integer that the digits before the point stand for. -/
def toInt (t : NumeralText) : Int :=
  t.numeral.toInt

/-- The rational number that is written. -/
def value (t : NumeralText) : ℚ :=
  Binary64.signed t.numeral.negative t.numeral.decimal.value

/-- A numeral that stands for an integer: without a point and an exponent, and within the
range of 64 bits with or without a sign. -/
def IsInteger (t : NumeralText) : Prop :=
  (t.fraction? = none ∧ t.exponent? = none) ∧ (isSigned64 t.toInt ∨ isUnsigned64 t.toInt)

/-- The number that a numeral stands for: the integer that is written, and where it stands
for none the nearest binary64 number, which has the sign of the numeral. -/
inductive Denotes (t : NumeralText) : Number → Prop
  | integer : t.IsInteger → Denotes t (.integer t.toInt)
  | float {x : Binary64} : ¬ t.IsInteger → x.negative = (t.sign == ['-']) →
      x.IsNearest t.value → Denotes t (.float x)

/-- A numeral stands for an integer when its parts say so. -/
theorem isInteger_iff (t : NumeralText) : t.IsInteger ↔ (t.numeral.integral &&
    (isSigned64 t.numeral.toInt || isUnsigned64 t.numeral.toInt)) = true := by
  simp [IsInteger, toInt, numeral]

/-- The numeral that only a binary64 number tells from zero. -/
def IsMinusZero (t : NumeralText) : Prop :=
  t.characters = ['-', '0']

/-- The number that a numeral of the strict notation stands for: the negative zero keeps
its sign. -/
inductive DenotesStrictly (t : NumeralText) : Number → Prop
  | minusZero : t.IsMinusZero → DenotesStrictly t (.float (.zero true))
  | other {x : Number} : ¬ t.IsMinusZero → t.Denotes x → DenotesStrictly t x

end NumeralText

/-- The finite number that there is. -/
theorem Binary64.Extended.finite?_eq_some_iff {e : Extended} {x : Binary64} :
    e.finite? = some x ↔ e = .finite x := by
  cases e <;> simp [finite?]

namespace Literal

open NumeralText

/-- A numeral is given the number that it stands for, and there is no other. -/
theorem number?_eq_some_iff (t : NumeralText) (x : Number) :
    number? t.numeral = some x ↔ t.Denotes x := by
  have hfloat : ∀ y : Binary64, t.numeral.toExtended.finite? = some y ↔
      y.negative = (t.sign == ['-']) ∧ y.IsNearest t.value := fun y => by
    rw [Binary64.Extended.finite?_eq_some_iff, Numeral.toExtended,
      Decimal.toExtended_eq_finite_iff]
    rfl
  unfold number?
  split
  · rename_i h
    have hinteger := (isInteger_iff t).mpr h
    constructor
    · rintro ⟨⟩
      exact .integer hinteger
    · intro hx
      cases hx with
      | integer => rfl
      | float hne => contradiction
  · rename_i h
    have hinteger : ¬ t.IsInteger := fun hinteger => h ((isInteger_iff t).mp hinteger)
    constructor
    · intro hx
      rcases Option.map_eq_some_iff.mp hx with ⟨y, hy, rfl⟩
      obtain ⟨hsign, hnearest⟩ := (hfloat y).mp hy
      exact .float hinteger hsign hnearest
    · intro hx
      cases hx with
      | integer => contradiction
      | float _ hsign hnearest =>
        exact Option.map_eq_some_iff.mpr ⟨_, (hfloat _).mpr ⟨hsign, hnearest⟩, rfl⟩

end Literal

namespace Document

open NumeralText

/-- Digits that start with another digit than zero stand for no zero. -/
theorem natOfDigits_cons_ne_zero {c : Char} {cs : List Char} (hdigit : c.isDigit) (hc : c ≠ '0') :
    natOfDigits (c :: cs) ≠ 0 := by
  have hpos : 0 < c.toNat - '0'.toNat := by
    have hne : c.toNat ≠ '0'.toNat := fun heq => hc (Char.toNat_inj.mp heq)
    have hle : '0'.toNat ≤ c.toNat := by
      simp only [Char.isDigit, Bool.and_eq_true, decide_eq_true_eq, ge_iff_le] at hdigit
      exact hdigit.1
    omega
  rw [natOfDigits, Nat.ofDigitChars_cons, Nat.ofDigitChars_eq_ofDigitChars_zero]
  positivity

/-- Of the digits that can stand before the point, one zero alone stands for zero. -/
theorem natOfDigits_eq_zero_iff {digits : List Char} (h : IsDigits digits)
    (hwhole : isWhole digits) : natOfDigits digits = 0 ↔ digits = ['0'] := by
  unfold isWhole at hwhole
  split at hwhole
  · contradiction
  · exact ⟨fun _ => rfl, fun _ => rfl⟩
  · rename_i c cs hne
    have hc : c ≠ '0' := by simpa using hwhole
    refine iff_of_false (natOfDigits_cons_ne_zero (h c List.mem_cons_self) hc) ?_
    rintro ⟨⟩
    contradiction

/-- The parts of the numeral `-0`. -/
theorem isMinusZero_iff {t : NumeralText} (h : t.WellFormed) (hstrict : t.Strict) :
    t.IsMinusZero ↔ t = ⟨['-'], ['0'], none, none⟩ := by
  constructor
  · intro hzero
    obtain ⟨sign, whole, fraction?, exponent?⟩ := t
    obtain ⟨c, cs, rfl⟩ : ∃ c cs, whole = c :: cs :=
      List.exists_cons_of_ne_nil (ne_nil_of_isWhole hstrict.whole)
    have hdigit : c.isDigit := h.whole c List.mem_cons_self
    unfold IsMinusZero characters at hzero
    rcases h.sign with hsign | hsign | hsign <;> dsimp only at hsign <;> subst hsign
    · obtain ⟨rfl, -⟩ : c = '-' ∧ _ := by simpa using hzero
      contradiction
    · exact absurd rfl hstrict.sign
    · obtain ⟨rfl, rfl, hfraction, hexponent⟩ :
          c = '0' ∧ cs = [] ∧ fractionCharacters fraction? = [] ∧
            exponentCharacters exponent? = [] := by simpa using hzero
      cases fraction? with
      | some digits => contradiction
      | none =>
        cases exponent? with
        | some e => contradiction
        | none => rfl
  · rintro rfl
    rfl

/-- Only the numeral `-0` is an integer that has a sign and is zero. -/
theorem isMinusZero_of_numeral {t : NumeralText} (h : t.WellFormed) (hstrict : t.Strict)
    (hintegral : t.numeral.integral) (hnegative : t.numeral.negative)
    (hzero : t.numeral.toInt = 0) : t.IsMinusZero := by
  obtain ⟨hfraction, hexponent⟩ : t.fraction? = none ∧ t.exponent? = none := by
    simpa [numeral] using hintegral
  have hsign : t.sign = ['-'] := by simpa [numeral] using hnegative
  have hwhole : t.whole = ['0'] := by
    rw [Numeral.toInt, if_pos hnegative, neg_eq_zero, Int.natCast_eq_zero] at hzero
    exact (natOfDigits_eq_zero_iff h.whole hstrict.whole).mp hzero
  simp [IsMinusZero, characters, hsign, hwhole, hfraction, hexponent, fractionCharacters,
    exponentCharacters]

/-- A numeral of the strict notation is given the number that it stands for. -/
theorem number?_eq_some_iff {t : NumeralText} (h : t.WellFormed) (hstrict : t.Strict)
    (x : Number) : number? t.numeral = some x ↔ t.DenotesStrictly x := by
  by_cases hzero : t.IsMinusZero
  · have hnumber : number? t.numeral = some (.float (.zero true)) := by
      rw [(isMinusZero_iff h hstrict).mp hzero]
      decide
    rw [hnumber]
    constructor
    · rintro ⟨⟩
      exact .minusZero hzero
    · intro hx
      cases hx with
      | minusZero => rfl
      | other hne => contradiction
  · have hlenient : number? t.numeral = Literal.number? t.numeral := by
      have hsigned : (t.numeral.integral && !(t.numeral.negative && t.numeral.toInt == 0)) =
          t.numeral.integral := by
        rw [Bool.and_eq_left_iff_imp]
        intro hintegral
        rw [Bool.not_eq_true', Bool.and_eq_false_imp]
        intro hnegative
        rw [beq_eq_false_iff_ne]
        exact fun hvalue => hzero (isMinusZero_of_numeral h hstrict hintegral hnegative hvalue)
      rw [number?, hsigned, Literal.number?]
    rw [hlenient, Literal.number?_eq_some_iff]
    constructor
    · exact .other hzero
    · intro hx
      cases hx with
      | minusZero => contradiction
      | other _ hdenotes => exact hdenotes

end Document

end Reshape
