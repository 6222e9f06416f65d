import Reshape.Proofs.NumeralTexts
import Reshape.Proofs.PathComposition

/-!
# The grammar of paths

A piece of a path is well-formed when it is a key, which may be empty, with indexes in
brackets behind it.  Pieces are not read by this rule.  They are cut behind each closing
bracket, and what is left is a level with an index as soon as there is an opening bracket in
it.  So all well-formed paths are read, but also some others: brackets need not be paired,
text may go on behind a closing bracket, and an index may have a plus sign.

Main results:

- Definition `Path.WellFormed`: the paths that follow the rule.
- Definition `Path.IsLevelText`: the texts that a piece can have between closing brackets.
- Theorem `Path.exists_parse_iff`: the paths that are read.
- Theorem `Path.isKeyed_index_iff`: the pieces among them that follow the rule.
- Theorem `Path.parse_accepts`: the paths that are read and those that follow the rule.
-/

namespace Reshape

/-! ## Indexes -/

/-- Digits for a natural number of at most 64 bits. -/
def IsIndexText (digits : List Char) : Prop :=
  digits ≠ [] ∧ IsDigits digits ∧ isUnsigned64 (natOfDigits digits)

/-- Digits do not start with a plus sign. -/
theorem IsDigits.head?_ne_plus {digits : List Char} (h : IsDigits digits) :
    digits.head? ≠ some '+' :=
  fun hhead => h.notMem (by decide : ¬Char.isDigit '+') (List.mem_of_mem_head? hhead)

/-- Behind a plus sign the digits of an index are read. -/
theorem readIndex?_plus {rest : List Char} {index : Nat} :
    readIndex? ('+' :: rest) = some index ↔ IsIndexText rest ∧ natOfDigits rest = index := by
  unfold readIndex?
  simp [IsIndexText, IsDigits, and_assoc]

/-- Without a plus sign at the start the digits of an index are read. -/
theorem readIndex?_eq_some_iff {cs : List Char} (h : cs.head? ≠ some '+') {index : Nat} :
    readIndex? cs = some index ↔ IsIndexText cs ∧ natOfDigits cs = index := by
  unfold readIndex?
  split
  · simp at h
  · simp [IsIndexText, IsDigits, and_assoc]

/-- What is read as an index are its digits, with or without a plus sign in front. -/
theorem exists_readIndex?_iff {cs : List Char} :
    (∃ index, readIndex? cs = some index) ↔
      IsIndexText cs ∨ ∃ rest, cs = '+' :: rest ∧ IsIndexText rest := by
  by_cases hplus : cs.head? = some '+'
  · obtain ⟨rest, rfl⟩ := List.head?_eq_some_iff.mp hplus
    have hnot : ¬IsIndexText ('+' :: rest) := fun h => h.2.1.head?_ne_plus rfl
    simp [readIndex?_plus, hnot]
  · have hnot : ∀ rest, cs ≠ '+' :: rest := by
      rintro rest rfl
      exact hplus rfl
    simp [readIndex?_eq_some_iff hplus, hnot]

namespace Path

/-! ## Pieces -/

/-- The pieces of a path between points. -/
def pieces (path : String) : List (List Char) :=
  path.toList.splitOn '.'

/-- A text without brackets. -/
def HasNoBrackets (cs : List Char) : Prop :=
  '[' ∉ cs ∧ ']' ∉ cs

/-- The empty text has no brackets. -/
theorem hasNoBrackets_nil : HasNoBrackets [] :=
  ⟨List.not_mem_nil, List.not_mem_nil⟩

/-- Texts in brackets, one behind the other. -/
def bracketed (texts : List (List Char)) : List Char :=
  texts.flatMap fun text => '[' :: text ++ [']']

/-- A key, which may be empty, with texts of some kind in brackets behind it. -/
def IsKeyed (kind : List Char → Prop) (piece : List Char) : Prop :=
  ∃ key texts, HasNoBrackets key ∧ (∀ text ∈ texts, kind text) ∧ piece = key ++ bracketed texts

/-- A path follows the rule when each of its pieces is a key, which may be empty, with
indexes in brackets behind it. -/
def WellFormed (path : String) : Prop :=
  ∀ piece ∈ pieces path, IsKeyed IsIndexText piece

/-- What may stand in brackets that are paired: anything but further brackets and a plus
sign in front. -/
def IsPlain (text : List Char) : Prop :=
  HasNoBrackets text ∧ text.head? ≠ some '+'

/-- What may stand between closing brackets: a text without opening brackets, or any key and,
behind the first opening bracket, the digits of an index with or without a plus sign. -/
inductive IsLevelText : List Char → Prop
  | key {text : List Char} (h : '[' ∉ text) : IsLevelText text
  | item {key digits : List Char} (hkey : '[' ∉ key) (h : IsIndexText digits) :
      IsLevelText (key ++ '[' :: digits)
  | signed {key digits : List Char} (hkey : '[' ∉ key) (h : IsIndexText digits) :
      IsLevelText (key ++ '[' :: '+' :: digits)

/-- Digits are plain. -/
theorem IsPlain.of_digits {digits : List Char} (h : IsDigits digits) : IsPlain digits := by
  have hopening : '[' ∉ digits := h.notMem (by decide)
  have hclosing : ']' ∉ digits := h.notMem (by decide)
  exact ⟨⟨hopening, hclosing⟩, h.head?_ne_plus⟩

/-! ## Levels of a piece -/

/-- A text with an opening bracket is a level when an index stands behind the bracket. -/
theorem exists_level_append_bracket_iff {key rest : List Char} (hkey : '[' ∉ key) :
    (∃ l, level (key ++ '[' :: rest) = .ok l) ↔ ∃ index, readIndex? rest = some index := by
  rw [level_append_bracket hkey]
  cases readIndex? rest <;> simp

/-- The texts that are levels. -/
theorem exists_level_iff {text : List Char} : (∃ l, level text = .ok l) ↔ IsLevelText text := by
  constructor
  · intro h
    by_cases hmem : '[' ∈ text
    · obtain ⟨key, rest, rfl, hkey⟩ := List.eq_append_cons_of_mem hmem
      rw [exists_level_append_bracket_iff hkey, exists_readIndex?_iff] at h
      rcases h with h | ⟨digits, rfl, h⟩
      · exact .item hkey h
      · exact .signed hkey h
    · exact .key hmem
  · intro h
    cases h with
    | key h => exact ⟨_, level_of_notMem h⟩
    | item hkey h =>
      exact (exists_level_append_bracket_iff hkey).mpr (exists_readIndex?_iff.mpr (.inl h))
    | signed hkey h =>
      exact (exists_level_append_bracket_iff hkey).mpr
        (exists_readIndex?_iff.mpr (.inr ⟨_, rfl, h⟩))

/-- The first closing bracket ends the first text of a piece. -/
theorem levelTexts_append_bracket {text : List Char} (h : ']' ∉ text) (rest : List Char) :
    levelTexts (text ++ ']' :: rest) = text :: levelTexts rest := by
  obtain ⟨first, others, hrest⟩ :=
    List.exists_cons_of_ne_nil (List.splitOn_ne_nil ']' rest)
  unfold levelTexts
  rw [Text.splitOn_singleton, Text.splitOn_singleton,
    List.splitOn_append_cons_self_of_not_mem h, hrest]
  simp only [List.getLast?_cons_cons, List.dropLast_cons_cons]
  split <;> rfl

/-- The empty text behind the last closing bracket may be counted among the texts of a piece,
as it is one that can be read. -/
theorem forall_levelTexts_iff {P : List Char → Prop} (hnil : P []) (piece : List Char) :
    (∀ text ∈ levelTexts piece, P text) ↔ ∀ text ∈ piece.splitOn ']', P text := by
  have hne := List.splitOn_ne_nil ']' piece
  have hlast := List.dropLast_append_getLast hne
  unfold levelTexts
  rw [Text.splitOn_singleton]
  dsimp only
  split
  · rename_i hempty
    rw [List.getLast?_eq_some_getLast hne, Option.some.injEq] at hempty
    rw [hempty] at hlast
    rw [← hlast, List.forall_mem_append, List.dropLast_concat]
    simp [hnil]
  · rfl

/-- A path is read when all texts between its closing brackets are levels. -/
theorem exists_parse_iff {path : String} :
    (∃ levels, parse path = .ok levels) ↔
      ∀ piece ∈ pieces path, ∀ text ∈ piece.splitOn ']', IsLevelText text := by
  have hnil : IsLevelText [] := .key List.not_mem_nil
  unfold parse
  rw [exists_mapM_eq_ok_iff, Text.splitOn_singleton, List.forall_mem_flatMap]
  simp only [exists_level_iff, forall_levelTexts_iff hnil]
  rfl

/-- A path that is not read is at fault for the index of a level. -/
theorem exists_badIndex_of_parse {path : String} {fault : PathFault}
    (h : parse path = .error fault) : ∃ text, fault = .badIndex text := by
  obtain ⟨text, -, htext⟩ := exists_of_mapM_eq_error h
  unfold level at htext
  split at htext
  · cases htext
  · split at htext
    · cases htext
    · cases htext
      exact ⟨_, rfl⟩

/-! ## Pieces with paired brackets -/

/-- The texts between the closing brackets of a key with plain texts in brackets are levels
when the plain texts are indexes. -/
theorem forall_isLevelText_iff {key : List Char} (hkey : HasNoBrackets key)
    {texts : List (List Char)} (h : ∀ text ∈ texts, IsPlain text) :
    (∀ text ∈ (key ++ bracketed texts).splitOn ']', IsLevelText text) ↔
      ∀ text ∈ texts, IsIndexText text := by
  induction texts generalizing key with
  | nil =>
    have hsplit : (key ++ bracketed []).splitOn ']' = [key] := by
      simpa [bracketed] using List.splitOn_eq_singleton hkey.2
    simp [hsplit, IsLevelText.key hkey.1]
  | cons text texts ih =>
    rw [List.forall_mem_cons] at h
    obtain ⟨⟨⟨hopening, hclosing⟩, hplus⟩, hrest⟩ := h
    have hfront : ']' ∉ key ++ '[' :: text := by simp [hkey.2, hclosing]
    have hpiece : key ++ bracketed (text :: texts) =
        (key ++ '[' :: text) ++ ']' :: ([] ++ bracketed texts) := by simp [bracketed]
    have hfirst : IsLevelText (key ++ '[' :: text) ↔ IsIndexText text := by
      rw [← exists_level_iff, exists_level_append_bracket_iff hkey.1]
      simp [readIndex?_eq_some_iff hplus]
    rw [hpiece, List.splitOn_append_cons_self_of_not_mem hfront, List.forall_mem_cons,
      List.forall_mem_cons, hfirst, ih hasNoBrackets_nil hrest]

/-- A piece follows the rule when it is read and its brackets are paired, with no text behind
them and no plus signs in them. -/
theorem isKeyed_index_iff {piece : List Char} :
    IsKeyed IsIndexText piece ↔
      (∀ text ∈ piece.splitOn ']', IsLevelText text) ∧ IsKeyed IsPlain piece := by
  constructor
  · rintro ⟨key, texts, hkey, htexts, rfl⟩
    have hplain : ∀ text ∈ texts, IsPlain text :=
      fun text htext => IsPlain.of_digits (htexts text htext).2.1
    exact ⟨(forall_isLevelText_iff hkey hplain).mpr htexts, key, texts, hkey, hplain, rfl⟩
  · rintro ⟨hread, key, texts, hkey, hplain, rfl⟩
    exact ⟨key, texts, hkey, (forall_isLevelText_iff hkey hplain).mp hread, rfl⟩

/-! ## Paths -/

/-- A path is read exactly when each text between its closing brackets is a key or a key with
an index.  The paths that follow the rule are those among them in which the brackets are
paired, with no text behind them and no plus signs in them.  A path that is not read is at
fault for an index, and leads to null in every value. -/
theorem parse_accepts (path : String) :
    ((∃ levels, parse path = .ok levels) ↔
      ∀ piece ∈ pieces path, ∀ text ∈ piece.splitOn ']', IsLevelText text) ∧
    (WellFormed path ↔
      (∃ levels, parse path = .ok levels) ∧ ∀ piece ∈ pieces path, IsKeyed IsPlain piece) ∧
    ((∃ levels, parse path = .ok levels) ∨
      (∃ text, parse path = .error (.badIndex text)) ∧ ∀ v : Json, v.extract path = .null) := by
  refine ⟨exists_parse_iff, ?_, ?_⟩
  · rw [exists_parse_iff, ← forall₂_and]
    simp only [WellFormed, isKeyed_index_iff]
  · cases hparse : parse path with
    | ok levels => exact .inl ⟨levels, rfl⟩
    | error fault =>
      obtain ⟨text, rfl⟩ := exists_badIndex_of_parse hparse
      exact .inr ⟨⟨text, rfl⟩, Json.extract_of_parse_error hparse⟩

/-- A path whose bracket is not closed is read, though it does not follow the rule. -/
theorem parse_unclosed : ¬∀ path, (∃ levels, parse path = .ok levels) ↔ WellFormed path := by
  intro h
  have hread : ∃ levels, parse "list[1" = .ok levels := ⟨[.item "list" 1], by decide +kernel⟩
  have hpiece : "list[1".toList ∈ pieces "list[1" := by decide +kernel
  obtain ⟨key, texts, hkey, -, heq⟩ := (h "list[1").mp hread _ hpiece
  cases texts with
  | nil =>
    have hmem : '[' ∈ key := by
      rw [bracketed, List.flatMap_nil, List.append_nil] at heq
      exact heq ▸ by decide
    exact hkey.1 hmem
  | cons text texts =>
    have hmem : ']' ∈ "list[1".toList := by simp [heq, bracketed]
    exact absurd hmem (by decide)

end Path

end Reshape
