import Reshape.Proofs.JoinedPieces
import Reshape.Proofs.SequenceEnds

/-!
# Searches in strings

All operations that look for one string in another see the same occurrences: the first one that
there is, and then always the first one behind the last.  So what each of them gives can be read off
the pieces between the occurrences.  Only the end of a string is looked at for itself, because an
occurrence there may not count when it overlaps an earlier one.

Main results:

- Theorem `Text.isPrefixOf_iff_offset?`: a text starts with what is found at its start.
- Theorem `Json.find_of_isCut`: the place that is found is the end of the first piece.
- Structure `SearchesAgree`: what the operations give for a string and its pieces.
- Theorem `searches_agree`: the operations agree on every string.
-/

namespace Reshape

namespace Text

/-- A text starts with another one when that is found at its start. -/
theorem isPrefixOf_iff_offset? {needle cs : List Char} :
    needle.isPrefixOf cs ↔ offset? needle cs = some 0 := by
  rw [List.isPrefixOf_iff_prefix, offset?_eq_some_iff, isFirstAt_zero_iff]

/-- A text ends with another one when that is left behind some of its characters. -/
theorem isSuffixOf_iff_exists_drop {final cs : List Char} :
    final.isSuffixOf cs ↔ ∃ k, cs.drop k = final := by
  rw [List.isSuffixOf_iff_suffix]
  constructor
  · rintro ⟨front, rfl⟩
    exact ⟨front.length, by simp⟩
  · rintro ⟨k, rfl⟩
    exact List.drop_suffix k cs

end Text

namespace Json

/-! ## What is found -/

/-- The place that is found, or minus one. -/
theorem find_string (s x : String) :
    find (string s) (string x) =
      ofInt (((Text.offset? x.toList s.toList).map Nat.cast).getD (-1)) := by
  cases hoffset : Text.offset? x.toList s.toList <;> simp [find, ofTexts, hoffset]

section Cuts

variable {s x first : String} {rest : List String}
  (h : Text.IsCut x.toList ((first :: rest).map String.toList) s.toList)

include h

/-- The place that is found is the end of the first piece, if there are more pieces. -/
theorem find_of_isCut :
    find (string s) (string x) = ofInt (if rest = [] then -1 else first.length) := by
  rw [find_string, h.offset?_eq]
  by_cases hrest : rest = [] <;> simp [hrest, String.length_toList]

/-- A string occurs as often as there are pieces behind the first one. -/
theorem count_of_isCut (hx : x ≠ "") : count (string s) (string x) = ofInt rest.length := by
  have hlength : rest.length = Text.occurrences x.toList s.toList := by
    simpa using h.length_eq (by simpa using hx)
  rw [count, hlength]

/-- What replaces a string stands between the pieces. -/
theorem replace_of_isCut (hx : x ≠ "") (t : String) :
    replace (string s) (string x) (string t) =
      string ((Division.around t).joined (first :: rest)) := by
  rw [replace, h.replace_eq (by simpa using hx), Division.joined, Division.separator, ofChars]

end Cuts

end Json

open Json

/-- What the operations that look for a string in another one give.  Here `run` runs an operation,
and the string `s` has the pieces `first :: rest` between the occurrences of `x`. -/
structure SearchesAgree (run : Json → String → List Json → Run Json) (s x first : String)
    (rest : List String) : Prop where
  split_eq : run (.string s) "split" [.string x] = pure (strings (first :: rest))
  replace_eq : ∀ t : String, ∃ replaced,
    run (.string s) "replace" [.string x, .string t] = pure replaced ∧
    run (strings (first :: rest)) "join" [.string t] = pure replaced
  count_eq : ∃ n : Nat, run (.string s) "count" [.string x] = pure (ofInt n) ∧
    run (strings (first :: rest)) "length" [] = pure (ofInt (n + 1))
  find_eq_iff : run (.string s) "find" [.string x] = pure (ofInt (-1)) ↔
    run (.string s) "count" [.string x] = pure (ofInt 0)
  find_eq : run (.string s) "count" [.string x] ≠ pure (ofInt 0) →
    run (.string s) "find" [.string x] = pure (ofInt first.length) ∧
    Text.IsFirstAt x.toList s.toList first.length
  startsWith_eq : ∃ p : Bool, run (.string s) "startsWith" [.string x] = pure (.bool p) ∧
    (p ↔ run (.string s) "find" [.string x] = pure (ofInt 0))
  endsWith_eq : ∃ p : Bool, run (.string s) "endsWith" [.string x] = pure (.bool p) ∧
    (p ↔ ∃ k, s.toList.drop k = x.toList)

/-! ## Calls -/

/-- The operations that look for one string in another. -/
inductive Search
  | count
  | find
  | startsWith
  | endsWith

namespace Search

/-- The name of a search. -/
def name : Search → String
  | count => "count"
  | find => "find"
  | startsWith => "startsWith"
  | endsWith => "endsWith"

/-- What a search finds. -/
def compute : Search → Json → Json → Json
  | count => Json.count
  | find => Json.find
  | startsWith => Json.startsWith
  | endsWith => Json.endsWith

/-- The entries of the searches are in the catalog. -/
theorem entry_mem (search : Search) :
    .maybe search.name (.withOne search.compute) ∈ Catalog.entries := by
  unfold Catalog.entries
  cases search <;> simp [Catalog.sequences, Catalog.texts, Catalog.Entry.maybe, name, compute]

end Search

/-- The names of the searches, and of the operations on pieces. -/
def searchNames : Set String :=
  Set.range Search.name ∪ {"split", "join", "replace", "length"}

section Calls

variable {r : Registry} (hr : Registry.AgreeOn searchNames .catalog r)

include hr

/-- A search of one string in another gives what it finds. -/
theorem applyOperation_search (search : Search) (s x location : String) :
    applyOperation r (.string s) search.name [.string x] location =
      pure (search.compute (.string s) (.string x)) :=
  hr.applyOperation_withOne search.entry_mem (.inl (Set.mem_range_self search)) (by simp) (by simp)
    location

/-- All occurrences are replaced by another string. -/
theorem applyOperation_replace (s x t location : String) :
    applyOperation r (.string s) "replace" [.string x, .string t] location =
      pure (replace (.string s) (.string x) (.string t)) := by
  have hmem : .maybe "replace" (.withTwo replace) ∈ Catalog.entries := by
    simp [Catalog.entries, Catalog.texts]
  exact hr.applyOperation_of_ne_null hmem (.inr (by simp [Catalog.Entry.maybe])) (by simp) (by simp)
    rfl location

/-- An array of strings has its number of items. -/
theorem applyOperation_length_strings (texts : List String) (location : String) :
    applyOperation r (strings texts) "length" [] location = pure (ofInt texts.length) := by
  have hlength : Registry.AgreeOn {"length"} .catalog r :=
    hr.mono (Set.singleton_subset_iff.mpr (.inr (by simp)))
  rw [strings, applyOperation_length hlength (.array _), elements_array, List.length_map]

/-- Cutting around a string and joining are the same as in the catalog. -/
theorem agreeOn_around (text : String) :
    Registry.AgreeOn (Division.around text).names .catalog r := by
  apply hr.mono
  rintro name (rfl | rfl) <;> simp [searchNames, Division.cutting, Division.joining]

/-- The operations that look for a string that is not empty in another one agree on where it occurs.
Replacing it is joining the pieces with another string, it occurs once less often than there are
pieces, and it is found behind the first piece, which is where it occurs first, or not at all when
there is only one piece.  A string starts with it when it is found at its start, and ends with it
when it is left behind some characters. -/
theorem searches_agree {x : String} (hx : x ≠ "") (s location : String) :
    ∃ first rest, SearchesAgree
      (fun v name arguments => applyOperation r v name arguments location) s x first rest := by
  obtain ⟨first, rest, hpieces⟩ : ∃ first rest, (Division.around x).pieces s = first :: rest :=
    List.exists_cons_of_ne_nil (by simp [Division.pieces, Text.splitOn_ne_nil])
  have hcut : Text.IsCut x.toList ((first :: rest).map String.toList) s.toList :=
    hpieces ▸ Division.isCut_pieces (d := .around x) hx s
  have hcount := applyOperation_search hr .count s x location
  have hfind := applyOperation_search hr .find s x location
  rw [Search.compute, Search.name, count_of_isCut hcut hx] at hcount
  rw [Search.compute, Search.name, find_of_isCut hcut] at hfind
  refine ⟨first, rest, ?_, ?_, ?_, ?_, ?_, ?_, ?_⟩
  · rw [← hpieces]
    exact Division.applyOperation_cutting (agreeOn_around hr x) hx s location
  · intro t
    refine ⟨_, applyOperation_replace hr s x t location, ?_⟩
    rw [replace_of_isCut hcut hx]
    exact Division.applyOperation_joining (agreeOn_around hr t) (first :: rest) location
  · exact ⟨rest.length, hcount, applyOperation_length_strings hr (first :: rest) location⟩
  · rw [hfind, hcount, Run.pure_ofInt_inj, Run.pure_ofInt_inj]
    by_cases hrest : rest = [] <;> simp [hrest]
  · intro hne
    have hrest : rest ≠ [] := by
      rintro rfl
      exact hne hcount
    refine ⟨by rw [hfind, if_neg hrest], ?_⟩
    rw [← String.length_toList, ← Text.offset?_eq_some_iff, hcut.offset?_eq,
      if_neg (by simpa using hrest)]
  · refine ⟨_, applyOperation_search hr .startsWith s x location, ?_⟩
    rw [hfind, Run.pure_ofInt_inj, Text.isPrefixOf_iff_offset?, hcut.offset?_eq]
    by_cases hrest : rest = [] <;> simp [hrest]
  · refine ⟨_, applyOperation_search hr .endsWith s x location, ?_⟩
    exact Text.isSuffixOf_iff_exists_drop

end Calls

/-- At the end of the string stands an occurrence that begins inside another one.  It is not
counted, but the string ends with it. -/
theorem searches_agree_overlap :
    Registry.AgreeOn searchNames .catalog .standard ∧ "aa" ≠ "" ∧
    (∃ first rest, SearchesAgree
      (fun v name arguments => applyOperation .standard v name arguments ".out") "éaaa" "aa"
      first rest) ∧
    applyOperation .standard (.string "éaaa") "count" [.string "aa"] ".out" = pure (ofInt 1) ∧
    applyOperation .standard (.string "éaaa") "find" [.string "aa"] ".out" = pure (ofInt 1) ∧
    applyOperation .standard (.string "éaaa") "endsWith" [.string "aa"] ".out" =
      pure (.bool true) := by
  have hr : Registry.AgreeOn searchNames .catalog .standard := by
    apply Registry.agreeOn_standard
    rintro (⟨search, hname⟩ | hname)
    · cases search <;> simp [Search.name] at hname
    · simp at hname
  obtain ⟨first, rest, h⟩ := searches_agree hr (by simp : "aa" ≠ "") "éaaa" ".out"
  have hcount : applyOperation .standard (.string "éaaa") "count" [.string "aa"] ".out" =
      pure (ofInt 1) := applyOperation_search hr .count "éaaa" "aa" ".out"
  have hfirst : Text.IsFirstAt "aa".toList "éaaa".toList 1 := ⟨by decide, by decide⟩
  obtain ⟨hfind, hplace⟩ := h.find_eq (by simp [hcount, Run.pure_ofInt_inj])
  obtain ⟨p, hends, hdrop⟩ := h.endsWith_eq
  obtain rfl : p = true := hdrop.mpr ⟨2, by decide⟩
  rw [hplace.eq hfirst] at hfind
  exact ⟨hr, by simp, ⟨first, rest, h⟩, hcount, hfind, hends⟩

end Reshape
