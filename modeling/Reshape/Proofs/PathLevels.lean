import Mathlib.Data.List.TakeWhile
import Reshape.Path
import Reshape.Proofs.Computations

/-!
# Levels of paths

The levels of a path are those of its pieces, and an index in brackets belongs to the key
in front of it.  So a path that goes on with a bracket shares all but its last levels
with the path up to the bracket.

Levels can be told apart by sources: for any levels there is a value in which they, and
only they, lead to a given leaf.

Main results:

- Theorem `exists_levels_of_parse`: the levels of a path that goes on with a bracket.
- Theorem `follow?_nest_append`: what levels lead to in the value that is made for others.
- Theorem `exists_extract_ne`: a source that tells a path from its start.
-/

namespace Reshape

/-! ## Pieces -/

namespace Text

/-- Splitting around a separator of one character is splitting around the character. -/
theorem splitOn_singleton (c : Char) (cs : List Char) : splitOn [c] cs = cs.splitOn c := by
  unfold splitOn
  induction cs with
  | nil => rfl
  | cons d cs ih =>
    rw [splitFrom, List.splitOn_cons_eq_if_modifyHead, ← ih]
    by_cases h : c = d
    · simp [h]
    · simp [h, Ne.symm h]

/-- The pieces of a text that goes on with another character than the separator: the last
piece goes on with it. -/
theorem exists_splitOn_append {separator c : Char} (hc : c ≠ separator)
    (front rest : List Char) :
    ∃ init last tail others, front.splitOn separator = init ++ [last] ∧
      (∀ d ∈ last, d ∈ front) ∧
      (front ++ c :: rest).splitOn separator = init ++ (last ++ c :: tail) :: others := by
  induction front with
  | nil =>
    obtain ⟨tail, others, hrest⟩ :=
      List.exists_cons_of_ne_nil (List.splitOn_ne_nil separator rest)
    refine ⟨[], [], tail, others, List.splitOn_nil separator, by simp, ?_⟩
    simp [List.splitOn_cons_eq_if_modifyHead, hc, hrest]
  | cons d front ih =>
    rcases ih with ⟨init, last, tail, others, hfront, hlast, hboth⟩
    rw [List.cons_append, List.splitOn_cons_eq_if_modifyHead,
      List.splitOn_cons_eq_if_modifyHead, hfront, hboth]
    by_cases hd : d = separator
    · refine ⟨[] :: init, last, tail, others, by simp [hd], ?_, by simp [hd]⟩
      exact fun e he => List.mem_cons_of_mem d (hlast e he)
    · cases init with
      | nil =>
        refine ⟨[], d :: last, tail, others, by simp [hd], ?_, by simp [hd]⟩
        exact List.forall_mem_cons.mpr
          ⟨List.mem_cons_self, fun e he => List.mem_cons_of_mem d (hlast e he)⟩
      | cons first init =>
        refine ⟨(d :: first) :: init, last, tail, others, by simp [hd], ?_, by simp [hd]⟩
        exact fun e he => List.mem_cons_of_mem d (hlast e he)

end Text

/-! ## Texts of levels -/

namespace Path

/-- A piece without closing brackets is the text of one level, or of none. -/
theorem levelTexts_of_notMem {piece : List Char} (h : ']' ∉ piece) :
    levelTexts piece = if piece.isEmpty then [] else [piece] := by
  unfold levelTexts
  rw [Text.splitOn_singleton, List.splitOn_eq_singleton h]
  cases piece <;> simp

/-- The first text of a piece with an opening bracket. -/
theorem exists_levelTexts_append {key : List Char} (h : ']' ∉ key) (rest : List Char) :
    ∃ digits others, levelTexts (key ++ '[' :: rest) = (key ++ '[' :: digits) :: others := by
  obtain ⟨init, last, digits, others, hkey, -, hboth⟩ :=
    Text.exists_splitOn_append (by decide : '[' ≠ ']') key rest
  obtain ⟨rfl, rfl⟩ : init = [] ∧ last = key := by
    rw [List.splitOn_eq_singleton h] at hkey
    cases init with
    | nil => exact ⟨rfl, by simpa using hkey.symm⟩
    | cons first init => simp at hkey
  unfold levelTexts
  rw [Text.splitOn_singleton, hboth, List.nil_append]
  cases others with
  | nil => exact ⟨digits, [], by simp⟩
  | cons other others =>
    dsimp only
    split
    · exact ⟨digits, (other :: others).dropLast, rfl⟩
    · exact ⟨digits, other :: others, rfl⟩

/-- A text without opening brackets is a key. -/
theorem level_of_notMem {text : List Char} (h : '[' ∉ text) :
    level text = .ok (.key (String.ofList text)) := by
  have hdrop : text.dropWhile (· != '[') = [] := by
    rw [List.dropWhile_eq_nil_iff]
    intro c hc
    exact bne_iff_ne.mpr (ne_of_mem_of_not_mem hc h)
  unfold level
  rw [hdrop]

/-- What stands behind the first opening bracket of a text is an index. -/
theorem level_append_bracket {key : List Char} (hkey : '[' ∉ key) (rest : List Char) :
    level (key ++ '[' :: rest) =
      match readIndex? rest with
      | some index => .ok (.item (String.ofList key) index)
      | none => .error (.badIndex (String.ofList (key ++ '[' :: rest))) := by
  have hplain : ∀ c ∈ key, (c != '[') = true :=
    fun c hc => bne_iff_ne.mpr (ne_of_mem_of_not_mem hc hkey)
  have hdrop : (key ++ '[' :: rest).dropWhile (· != '[') = '[' :: rest := by
    simp [List.dropWhile_append_of_pos hplain]
  have htake : (key ++ '[' :: rest).takeWhile (· != '[') = key := by
    simp [List.takeWhile_append_of_pos hplain]
  unfold level
  cases hindex : readIndex? rest <;> simp [hdrop, htake, hindex]

/-- A text with an opening bracket behind a key is an item under the key. -/
theorem exists_index_of_level {key digits : List Char} {l : Level} (hkey : '[' ∉ key)
    (h : level (key ++ '[' :: digits) = .ok l) :
    ∃ index, l = .item (String.ofList key) index := by
  rw [level_append_bracket hkey] at h
  split at h
  · exact ⟨_, (Except.ok.inj h).symm⟩
  · contradiction

/-! ## Levels -/

/-- The levels of a path up to a bracket, and those of the path that goes on with it. -/
theorem exists_levels_of_parse {front rest : List Char} (hopening : '[' ∉ front)
    (hclosing : ']' ∉ front) {levels : List Level}
    (h : parse (String.ofList (front ++ '[' :: rest)) = .ok levels) :
    ∃ init id index more, levels = init ++ .item id index :: more ∧
      parse (String.ofList front) =
        .ok (init ++ if id.isEmpty then [] else [.key id]) := by
  obtain ⟨pieces, key, tail, others, hfront, hkey, hboth⟩ :=
    Text.exists_splitOn_append (by decide : '[' ≠ '.') front rest
  have hkey_opening : '[' ∉ key := fun hmem => hopening (hkey _ hmem)
  have hkey_closing : ']' ∉ key := fun hmem => hclosing (hkey _ hmem)
  rcases exists_levelTexts_append hkey_closing tail with ⟨digits, texts, htexts⟩
  -- The path up to the bracket has the texts in front of the one with the bracket.
  unfold parse at h ⊢
  rw [String.toList_ofList, Text.splitOn_singleton] at h ⊢
  rw [hboth, List.flatMap_append, List.flatMap_cons, htexts, List.cons_append,
    List.mapM_append, List.mapM_cons] at h
  rcases exists_of_bind_eq_ok h with ⟨init, hinit, h⟩
  rcases exists_of_bind_eq_ok h with ⟨behind, hbehind, h⟩
  cases h
  rcases exists_of_bind_eq_ok hbehind with ⟨l, hl, hbehind⟩
  rcases exists_of_bind_eq_ok hbehind with ⟨more, hmore, hbehind⟩
  cases hbehind
  rcases exists_index_of_level hkey_opening hl with ⟨index, rfl⟩
  refine ⟨init, String.ofList key, index, more, rfl, ?_⟩
  rw [hfront, List.flatMap_append, List.mapM_append, hinit]
  by_cases hempty : key = []
  · subst hempty
    rfl
  · have hid : (String.ofList key).isEmpty = false := by simpa using hempty
    simp [levelTexts_of_notMem hkey_closing, level_of_notMem hkey_opening, hempty, hid]
    rfl

end Path

/-! ## Sources for levels -/

namespace Json

/-- The value at a path whose levels are known. -/
theorem extract_of_parse {path : String} {levels : List Level}
    (h : Path.parse path = .ok levels) (v : Json) :
    v.extract path = (v.follow? levels).getD null := by
  unfold extract
  by_cases hempty : path = ""
  · subst hempty
    obtain rfl : [] = levels := Except.ok.inj h
    rfl
  · have hne : path.isEmpty = false := by simpa using hempty
    rw [hne, h]
    rfl

/-- No level leads out of null. -/
theorem descend?_null (level : Level) : null.descend? level = none := by
  cases level with
  | key id => rfl
  | item id index =>
    by_cases hid : id.isEmpty <;> simp [descend?, child?, item?, hid]

/-- No path leads out of null. -/
theorem extract_null (path : String) : null.extract path = null := by
  unfold extract
  split
  · rfl
  · cases Path.parse path with
    | error => rfl
    | ok levels =>
      cases levels with
      | nil => rfl
      | cons level levels => simp [follow?, descend?_null]

/-- A value in which levels lead to a leaf. -/
def nest (leaf : Json) : List Level → Json
  | [] => leaf
  | .key id :: levels => object [(id, nest leaf levels)]
  | .item id index :: levels =>
    let items := array (List.replicate index null ++ [nest leaf levels])
    if id.isEmpty then items else object [(id, items)]

/-- The first level leads to the value that is made for the others. -/
theorem descend?_nest (leaf : Json) (level : Level) (levels : List Level) :
    (nest leaf (level :: levels)).descend? level = some (nest leaf levels) := by
  cases level with
  | key id => simp [nest, descend?, child?, Fields.get?]
  | item id index =>
    by_cases hid : id.isEmpty <;> simp [nest, descend?, child?, item?, Fields.get?, hid]

/-- Levels lead where the levels behind the common ones lead. -/
theorem follow?_nest_append (leaf : Json) (init levels others : List Level) :
    (nest leaf (init ++ levels)).follow? (init ++ others) = (nest leaf levels).follow? others := by
  induction init with
  | nil => rfl
  | cons level init ih =>
    rw [List.cons_append, List.cons_append, follow?, descend?_nest, Option.bind_some, ih]

/-- Levels lead to the leaf. -/
theorem follow?_nest (leaf : Json) (levels : List Level) :
    (nest leaf levels).follow? levels = some leaf := by
  have h := follow?_nest_append leaf levels [] []
  rwa [List.append_nil] at h

/-- An item stands in an array, which the key of the item leads to. -/
theorem exists_items_of_nest (leaf : Json) (id : String) (index : Nat) (levels : List Level) :
    ∃ items, (nest leaf (.item id index :: levels)).follow?
      (if id.isEmpty then [] else [.key id]) = some (array items) := by
  refine ⟨List.replicate index null ++ [nest leaf levels], ?_⟩
  by_cases hid : id.isEmpty <;> simp [nest, follow?, descend?, child?, Fields.get?, hid]

/-- A source in which a path leads to a value that neither the source nor the start of the
path up to a bracket leads to. -/
theorem exists_extract_ne {front rest : List Char} (hopening : '[' ∉ front)
    (hclosing : ']' ∉ front) {levels : List Level}
    (h : Path.parse (String.ofList (front ++ '[' :: rest)) = .ok levels) :
    ∃ source : Json, source.extract (String.ofList (front ++ '[' :: rest)) = bool true ∧
      source ≠ bool true ∧ source.extract (String.ofList front) ≠ bool true := by
  rcases Path.exists_levels_of_parse hopening hclosing h with ⟨init, id, index, more, rfl, hfront⟩
  refine ⟨nest (bool true) (init ++ .item id index :: more), ?_, ?_, ?_⟩
  · rw [extract_of_parse h, follow?_nest]
    rfl
  · cases init with
    | nil =>
      by_cases hid : id.isEmpty <;> simp [nest, hid]
    | cons level init =>
      cases level with
      | key name => simp [nest]
      | item name position =>
        by_cases hname : name.isEmpty <;> simp [nest, hname]
  · rcases exists_items_of_nest (bool true) id index more with ⟨items, hitems⟩
    rw [extract_of_parse hfront, follow?_nest_append, hitems]
    simp

end Json

end Reshape
