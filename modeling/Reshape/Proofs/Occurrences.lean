import Mathlib.Data.List.Infix
import Mathlib.Data.Nat.Find
import Reshape.Text.Search

/-!
# Occurrences and the pieces between them

A text that is not empty is found where it occurs first, and the search goes on behind this
occurrence.  So occurrences that begin inside another one do not count, and what stands between the
others are the pieces of the text.  All operations that search see these pieces: the separator
between them gives the text back, another text between them replaces the separator, there is one
piece more than occurrences, and the first piece ends where the separator occurs first.

Main results:

- Structure `IsFirstAt`: the place where a text occurs first.
- Theorem `offset?_eq_some_iff`: this is the place that is found.
- Relation `IsCut`: the pieces of a text between the occurrences of another one.
- Theorem `isCut_iff`: splitting gives the pieces, and nothing else is a cut.
- Theorems `IsCut.intercalate`, `IsCut.offset?_eq`, `IsCut.length_eq`, `IsCut.replace_eq`: what the
  other operations make of the pieces.
-/

namespace Reshape

namespace Text

/-! ## Places -/

/-- A text occurs behind the first `i` characters of another one. -/
def OccursAt (needle cs : List Char) (i : Nat) : Prop :=
  needle <+: cs.drop i

instance (needle cs : List Char) (i : Nat) : Decidable (OccursAt needle cs i) :=
  inferInstanceAs (Decidable (needle <+: _))

/-- The place where a text occurs first. -/
structure IsFirstAt (needle cs : List Char) (i : Nat) : Prop where
  occurs : OccursAt needle cs i
  before : ∀ j < i, ¬OccursAt needle cs j

section Places

variable {needle cs rest : List Char} {c : Char} {i : Nat}

/-- Nothing but the empty text occurs in the empty text. -/
@[simp]
theorem occursAt_nil : OccursAt needle [] i ↔ needle = [] := by
  simp [OccursAt]

/-- A text occurs first at the start of another one when it is its start. -/
theorem isFirstAt_zero_iff : IsFirstAt needle cs 0 ↔ needle <+: cs :=
  ⟨fun h => h.occurs, fun h => ⟨h, by simp⟩⟩

/-- A text occurs first behind the first character when it occurs first in what follows, and not at
the start. -/
theorem isFirstAt_cons_succ_iff :
    IsFirstAt needle (c :: rest) (i + 1) ↔ ¬needle <+: c :: rest ∧ IsFirstAt needle rest i := by
  constructor
  · rintro ⟨hoccurs, hbefore⟩
    exact ⟨hbefore 0 (by omega), hoccurs, fun j hj => hbefore (j + 1) (by omega)⟩
  · rintro ⟨hstart, hoccurs, hbefore⟩
    refine ⟨hoccurs, fun j hj => ?_⟩
    cases j with
    | zero => exact hstart
    | succ j => exact hbefore j (by omega)

/-- Nothing but the empty text occurs first in the empty text. -/
theorem isFirstAt_nil_iff : IsFirstAt needle [] i ↔ needle = [] ∧ i = 0 := by
  constructor
  · intro h
    have hneedle : needle = [] := by simpa using h.occurs
    exact ⟨hneedle, Nat.eq_zero_of_not_pos fun hpos => h.before 0 hpos (by simpa)⟩
  · rintro ⟨rfl, rfl⟩
    exact isFirstAt_zero_iff.mpr List.prefix_rfl

/-- A text that occurs somewhere has a place where it occurs first. -/
theorem OccursAt.exists_isFirstAt (h : OccursAt needle cs i) : ∃ j, IsFirstAt needle cs j :=
  ⟨Nat.find ⟨i, h⟩, Nat.find_spec ⟨i, h⟩, fun _ hj => Nat.find_min ⟨i, h⟩ hj⟩

/-- There is at most one place where a text occurs first. -/
theorem IsFirstAt.eq {j : Nat} (hi : IsFirstAt needle cs i) (hj : IsFirstAt needle cs j) :
    i = j := by
  have hle : ¬i < j := fun hlt => hj.before i hlt hi.occurs
  have hge : ¬j < i := fun hlt => hi.before j hlt hj.occurs
  omega

/-- The place that is found is the one where the text occurs first. -/
theorem offset?_eq_some_iff : offset? needle cs = some i ↔ IsFirstAt needle cs i := by
  induction cs generalizing i with
  | nil =>
    rw [isFirstAt_nil_iff, eq_comm (a := i)]
    by_cases hneedle : needle = [] <;> simp [offset?, hneedle]
  | cons c rest ih =>
    by_cases hstart : needle <+: c :: rest
    · have hfirst : IsFirstAt needle (c :: rest) 0 := isFirstAt_zero_iff.mpr hstart
      simp only [offset?, List.isPrefixOf_iff_prefix, hstart, if_true, Option.some.injEq]
      exact ⟨fun h => h ▸ hfirst, fun h => hfirst.eq h⟩
    · cases i with
      | zero => simp [offset?, hstart, isFirstAt_zero_iff]
      | succ i => simp [offset?, hstart, isFirstAt_cons_succ_iff, ih]

/-- No place is found for a text that occurs nowhere. -/
theorem offset?_eq_none_iff : offset? needle cs = none ↔ ∀ i, ¬OccursAt needle cs i := by
  constructor
  · intro hnone i hi
    obtain ⟨j, hj⟩ := hi.exists_isFirstAt
    rw [offset?_eq_some_iff.mpr hj] at hnone
    cases hnone
  · intro hnowhere
    rw [Option.eq_none_iff_forall_ne_some]
    exact fun i hi => hnowhere i (offset?_eq_some_iff.mp hi).occurs

end Places

/-! ## Reading on -/

/-- Behind an occurrence a text is split as if it began there. -/
theorem splitFrom_length_append (separator front rest : List Char) :
    splitFrom separator front.length (front ++ rest) = splitOn separator rest := by
  induction front with
  | nil => rfl
  | cons c front ih => simpa [splitFrom] using ih

/-- A text that starts with the separator has an empty first piece. -/
theorem splitOn_append {separator : List Char} (hne : separator ≠ []) (rest : List Char) :
    splitOn separator (separator ++ rest) = [] :: splitOn separator rest := by
  obtain ⟨c, tail, rfl⟩ := List.exists_cons_of_ne_nil hne
  simpa [splitOn, splitFrom] using splitFrom_length_append (c :: tail) tail rest

/-- A text that does not start with the separator has its first character in its first piece. -/
theorem splitOn_cons {separator : List Char} {c : Char} {rest : List Char}
    (h : ¬separator <+: c :: rest) :
    splitOn separator (c :: rest) = (splitOn separator rest).modifyHead (c :: ·) := by
  simp [splitOn, splitFrom, h]

/-- A text is read from its start: behind an occurrence of the sought text, or behind one character
where it does not occur. -/
theorem reading_induction {needle : List Char} (hne : needle ≠ []) {motive : List Char → Prop}
    (nil : motive []) (found : ∀ rest, motive rest → motive (needle ++ rest))
    (passed : ∀ c rest, ¬needle <+: c :: rest → motive rest → motive (c :: rest))
    (cs : List Char) : motive cs := by
  induction hlength : cs.length using Nat.strong_induction_on generalizing cs with
  | h length ih =>
    subst hlength
    cases cs with
    | nil => exact nil
    | cons c rest =>
      by_cases hstart : needle <+: c :: rest
      · obtain ⟨behind, hbehind⟩ := hstart
        have hshorter : behind.length < (c :: rest).length := by
          have hneedle := List.length_pos_of_ne_nil hne
          rw [← hbehind, List.length_append]
          omega
        rw [← hbehind]
        exact found behind (ih _ hshorter behind rfl)
      · exact passed c rest hstart (ih rest.length (by simp) rest rfl)

/-! ## Pieces -/

/-- The pieces of a text between the occurrences of another one, from the first to the last.  Each
piece but the last ends where the other text occurs first. -/
inductive IsCut (needle : List Char) : List (List Char) → List Char → Prop
  | last {cs : List Char} (h : ∀ i, ¬OccursAt needle cs i) : IsCut needle [cs] cs
  | next {piece rest : List Char} {pieces : List (List Char)}
    (h : IsFirstAt needle (piece ++ (needle ++ rest)) piece.length)
    (hrest : IsCut needle pieces rest) :
    IsCut needle (piece :: pieces) (piece ++ (needle ++ rest))

section Cuts

variable {needle : List Char} {pieces : List (List Char)} {cs : List Char}

/-- There is at least one piece. -/
theorem IsCut.ne_nil (h : IsCut needle pieces cs) : pieces ≠ [] := by
  cases h <;> simp

/-- The text between its pieces gives the whole text back. -/
theorem IsCut.intercalate (h : IsCut needle pieces cs) : needle.intercalate pieces = cs := by
  induction h with
  | last h => simp
  | next h hrest ih => rw [List.intercalate_cons_of_ne_nil hrest.ne_nil, ih, List.append_assoc]

/-- The first piece ends where the text occurs first, if it occurs. -/
theorem IsCut.offset?_eq {piece : List Char} (h : IsCut needle (piece :: pieces) cs) :
    offset? needle cs = if pieces = [] then none else some piece.length := by
  cases h with
  | last h => simp [offset?_eq_none_iff.mpr h]
  | next h hrest => simp [offset?_eq_some_iff.mpr h, hrest.ne_nil]

/-- A character where the text does not occur belongs to the first piece. -/
theorem IsCut.cons (h : IsCut needle pieces cs) {c : Char} (hstart : ¬needle <+: c :: cs) :
    IsCut needle (pieces.modifyHead (c :: ·)) (c :: cs) := by
  cases h with
  | last h =>
    refine .last fun i => ?_
    cases i with
    | zero => exact hstart
    | succ i => exact h i
  | @next piece rest pieces h hrest =>
    have hfirst : IsFirstAt needle ((c :: piece) ++ (needle ++ rest)) (c :: piece).length :=
      isFirstAt_cons_succ_iff.mpr ⟨hstart, h⟩
    exact .next hfirst hrest

/-- Splitting around a text that is not empty gives the pieces. -/
theorem isCut_splitOn (hne : needle ≠ []) (cs : List Char) :
    IsCut needle (splitOn needle cs) cs := by
  induction cs using reading_induction hne with
  | nil => exact .last (by simpa using hne)
  | found rest ih =>
    rw [splitOn_append hne]
    have hfirst : IsFirstAt needle ([] ++ (needle ++ rest)) ([] : List Char).length :=
      isFirstAt_zero_iff.mpr (List.prefix_append needle rest)
    exact .next hfirst ih
  | passed c rest hstart ih =>
    rw [splitOn_cons hstart]
    exact ih.cons hstart

/-- A text has only one cut. -/
theorem IsCut.unique {others : List (List Char)} (h : IsCut needle pieces cs)
    (h' : IsCut needle others cs) : pieces = others := by
  induction h generalizing others with
  | last h =>
    cases h' with
    | last h' => rfl
    | next h' hrest' => exact absurd h'.occurs (h _)
  | @next piece rest pieces h hrest ih =>
    generalize htext : piece ++ (needle ++ rest) = cs at h h'
    cases h' with
    | last h' => exact absurd h.occurs (h' _)
    | @next piece' rest' pieces' h' hrest' =>
      -- Both first pieces end where the text occurs first, so nothing behind them differs.
      obtain ⟨rfl, hbehind⟩ := List.append_inj htext (h.eq h')
      obtain rfl := List.append_cancel_left hbehind
      rw [ih hrest']

/-- Splitting gives the pieces, and nothing else is a cut. -/
theorem isCut_iff (hne : needle ≠ []) : IsCut needle pieces cs ↔ pieces = splitOn needle cs := by
  constructor
  · exact fun h => h.unique (isCut_splitOn hne cs)
  · rintro rfl
    exact isCut_splitOn hne cs

end Cuts

/-! ## The other operations -/

/-- There is one piece more than occurrences. -/
theorem length_splitFrom (needle : List Char) (skip : Nat) (cs : List Char) :
    (splitFrom needle skip cs).length = occurrencesFrom needle skip cs + 1 := by
  induction cs generalizing skip with
  | nil => cases skip <;> simp [splitFrom, occurrencesFrom]
  | cons c rest ih =>
    cases skip with
    | succ skip => simpa [splitFrom, occurrencesFrom] using ih skip
    | zero =>
      by_cases hstart : needle <+: c :: rest <;> simp [splitFrom, occurrencesFrom, hstart, ih]

/-- A character in front of the first piece is one in front of the whole text. -/
theorem intercalate_modifyHead {pieces : List (List Char)} (hne : pieces ≠ []) (c : Char)
    (separator : List Char) :
    separator.intercalate (pieces.modifyHead (c :: ·)) = c :: separator.intercalate pieces := by
  obtain ⟨piece, others, rfl⟩ := List.exists_cons_of_ne_nil hne
  by_cases hothers : others = []
  · simp [hothers]
  · simp [List.intercalate_cons_of_ne_nil hothers]

/-- Replacing puts another text between the pieces. -/
theorem replaceFrom_eq_intercalate (old new : List Char) (skip : Nat) (cs : List Char) :
    replaceFrom old new skip cs = new.intercalate (splitFrom old skip cs) := by
  induction cs generalizing skip with
  | nil => cases skip <;> simp [replaceFrom, splitFrom]
  | cons c rest ih =>
    have hne : ∀ skip, splitFrom old skip rest ≠ [] := fun skip =>
      List.ne_nil_of_length_eq_add_one (length_splitFrom old skip rest)
    cases skip with
    | succ skip => simpa [replaceFrom, splitFrom] using ih skip
    | zero =>
      by_cases hstart : old <+: c :: rest
      · simp [replaceFrom, splitFrom, hstart, ih, List.intercalate_cons_of_ne_nil (hne _)]
      · simp [replaceFrom, splitFrom, hstart, ih, intercalate_modifyHead (hne 0)]

section Cuts

variable {needle : List Char} {pieces : List (List Char)} {cs : List Char}

/-- A text occurs once between any two pieces. -/
theorem IsCut.length_eq (hne : needle ≠ []) (h : IsCut needle pieces cs) :
    pieces.length = occurrences needle cs + 1 := by
  rw [(isCut_iff hne).mp h, splitOn, length_splitFrom, occurrences, if_neg (by simpa using hne)]

/-- Replacing a text puts another one between the pieces. -/
theorem IsCut.replace_eq (hne : needle ≠ []) (h : IsCut needle pieces cs) (new : List Char) :
    replace needle new cs = new.intercalate pieces := by
  rw [(isCut_iff hne).mp h, replace, if_neg (by simpa using hne), replaceFrom_eq_intercalate,
    splitOn]

end Cuts

end Text

end Reshape
