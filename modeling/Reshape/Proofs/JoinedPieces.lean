import Reshape.Proofs.CatalogCalls
import Reshape.Proofs.Occurrences
import Reshape.Proofs.PathLevels

/-!
# Cutting strings and joining the pieces

A string is cut around a separator of choice, into words around spaces or into lines around line
breaks, and each way of cutting has its way of joining.  Joining the pieces of a string gives the
string back, for separators of any length, also when they overlap themselves.  Cutting a joined
string gives the pieces back when the separator is one character that is in none of them.

Main results:

- Definition `Division`: the ways of cutting and joining.
- Theorem `Division.applyOperation_cutting`: cutting gives the pieces of a string.
- Theorem `Division.applyOperation_joining`: joining puts the separator between strings.
- Theorem `cutting_and_joining`: one is the inverse of the other.
-/

namespace Reshape

namespace Json

/-! ## Arrays of strings -/

/-- An array of strings. -/
def strings (texts : List String) : Json :=
  array (texts.map string)

/-- An array of strings is not null. -/
theorem strings_ne_null (texts : List String) : strings texts ≠ null :=
  nofun

/-- The pieces of a text are strings. -/
theorem pieces_eq (separator cs : List Char) :
    pieces separator cs = strings ((Text.splitOn separator cs).map String.ofList) := by
  simp [pieces, strings, ofChars]

/-- Strings are glued together. -/
theorem glue_strings (separator : List Char) (texts : List String) :
    glue separator (strings texts) =
      ofChars (separator.intercalate (texts.map String.toList)) := by
  have htexts : (texts.map string).mapM string? = some texts := by
    induction texts with
    | nil => rfl
    | cons text texts ih => simp [ih, string?]
  simp [glue, strings, htexts]

/-- Strings are joined. -/
theorem join_strings (separator : String) (texts : List String) :
    join (strings texts) (some (string separator)) =
      ofChars (separator.toList.intercalate (texts.map String.toList)) := by
  have htexts : (texts.map string).filter (fun item => !item.isNull) = texts.map string := by
    simp [isNull]
  simp [join, strings, htexts, text, Function.comp_def]

end Json

open Json

/-! ## Ways of cutting -/

/-- The ways to cut a string into pieces: around a separator, into words and into lines. -/
inductive Division
  | around (text : String)
  | words
  | lines

namespace Division

/-- The text between the pieces. -/
def separator : Division → String
  | around text => text
  | words => " "
  | lines => "\n"

/-- The operation that cuts, with its arguments. -/
def cutting : Division → String × List Json
  | around text => ("split", [.string text])
  | words => ("words", [])
  | lines => ("lines", [])

/-- The operation that joins, with its arguments. -/
def joining : Division → String × List Json
  | around text => ("join", [.string text])
  | words => ("unwords", [])
  | lines => ("unlines", [])

/-- The names of both operations. -/
def names (d : Division) : Set String :=
  {d.cutting.1, d.joining.1}

/-- Both operations are also in the standard registry. -/
theorem agreeOn_names (d : Division) : Registry.AgreeOn d.names .catalog .standard :=
  Registry.agreeOn_standard (by cases d <;> simp [names, cutting, joining])

/-- The pieces of a string. -/
def pieces (d : Division) (s : String) : List String :=
  (Text.splitOn d.separator.toList s.toList).map String.ofList

/-- Strings with the separator between them. -/
def joined (d : Division) (texts : List String) : String :=
  String.ofList (d.separator.toList.intercalate (texts.map String.toList))

variable {d : Division}

/-- The characters of the pieces. -/
theorem map_toList_pieces (d : Division) (s : String) :
    (d.pieces s).map String.toList = Text.splitOn d.separator.toList s.toList := by
  simp [pieces, Function.comp_def]

/-- The pieces of a string are the ones between the occurrences of the separator. -/
theorem isCut_pieces (hd : d.separator ≠ "") (s : String) :
    Text.IsCut d.separator.toList ((d.pieces s).map String.toList) s.toList := by
  rw [map_toList_pieces]
  exact Text.isCut_splitOn (by simpa using hd) s.toList

/-- Joining the pieces of a string gives the string back. -/
theorem joined_pieces (hd : d.separator ≠ "") (s : String) : d.joined (d.pieces s) = s := by
  rw [joined, (isCut_pieces hd s).intercalate, String.ofList_toList]

/-- Cutting joined strings gives the strings back when the separator is a character that they do not
have. -/
theorem pieces_joined {c : Char} (hc : d.separator = String.singleton c) {texts : List String}
    (hne : texts ≠ []) (h : ∀ text ∈ texts, c ∉ text.toList) :
    d.pieces (d.joined texts) = texts := by
  have hsplit : ([c].intercalate (texts.map String.toList)).splitOn c = texts.map String.toList :=
    List.splitOn_intercalate c (by simpa using h) (by simpa using hne)
  simp [pieces, joined, hc, Text.splitOn_singleton, hsplit, Function.comp_def]

section Calls

variable {r : Registry} (hr : Registry.AgreeOn d.names .catalog r)

include hr

/-- A string is cut into its pieces. -/
theorem applyOperation_cutting (hd : d.separator ≠ "") (s location : String) :
    applyOperation r (.string s) d.cutting.1 d.cutting.2 location =
      pure (strings (d.pieces s)) := by
  rw [pieces, ← pieces_eq]
  cases d with
  | around text =>
    have hmem : .maybe "split" (.withOne Json.split) ∈ Catalog.entries := by
      simp [Catalog.entries, Catalog.texts]
    have hsplit : Json.split (.string s) (.string text) = Json.pieces text.toList s.toList := by
      have htext : text ≠ "" := hd
      simp [Json.split, Json.ofTexts, htext]
    rw [separator, ← hsplit]
    exact hr.applyOperation_withOne hmem (.inl rfl) (by simp) (by simp) location
  | words =>
    have hmem : .maybe "words" (.alone (Json.cut [' '])) ∈ Catalog.entries := by
      simp [Catalog.entries, Catalog.texts]
    exact hr.applyOperation_alone hmem (.inl rfl) (by simp) location
  | lines =>
    have hmem : .maybe "lines" (.alone (Json.cut ['\n'])) ∈ Catalog.entries := by
      simp [Catalog.entries, Catalog.texts]
    exact hr.applyOperation_alone hmem (.inl rfl) (by simp) location

/-- Strings are joined. -/
theorem applyOperation_joining (texts : List String) (location : String) :
    applyOperation r (strings texts) d.joining.1 d.joining.2 location =
      pure (.string (d.joined texts)) := by
  rw [joined, ← ofChars]
  cases d with
  | around text =>
    have hmem : .direct "join" (.withOptional Json.join) ∈ Catalog.entries := by
      simp [Catalog.entries, Catalog.texts]
    rw [separator, ← join_strings]
    exact hr.applyOperation_of_ne_null hmem (.inr rfl)
      (strings_ne_null texts) (by simp [joining]) rfl location
  | words =>
    have hmem : .maybe "unwords" (.alone (Json.glue [' '])) ∈ Catalog.entries := by
      simp [Catalog.entries, Catalog.texts]
    rw [← glue_strings]
    exact hr.applyOperation_alone hmem (.inr rfl) (strings_ne_null texts) location
  | lines =>
    have hmem : .maybe "unlines" (.alone (Json.glue ['\n'])) ∈ Catalog.entries := by
      simp [Catalog.entries, Catalog.texts]
    rw [← glue_strings]
    exact hr.applyOperation_alone hmem (.inr rfl) (strings_ne_null texts) location

end Calls

end Division

/-- Cutting a string gives the pieces between the occurrences of the separator, and joining these
gives the string back, for every separator but the empty one.  Joining strings and cutting what
results gives the strings back when there is at least one and the separator is a character that none
of them has. -/
theorem cutting_and_joining {r : Registry} {d : Division} (hr : Registry.AgreeOn d.names .catalog r)
    (hd : d.separator ≠ "") (location : String) :
    let cut s := applyOperation r (.string s) d.cutting.1 d.cutting.2 location
    let join texts := applyOperation r (strings texts) d.joining.1 d.joining.2 location
    (∀ s, ∃ pieces : List String,
      Text.IsCut d.separator.toList (pieces.map String.toList) s.toList ∧
      cut s = pure (strings pieces) ∧ join pieces = pure (.string s)) ∧
    ∀ c, d.separator = String.singleton c → ∀ texts : List String, texts ≠ [] →
      (∀ text ∈ texts, c ∉ text.toList) →
      ∃ s, join texts = pure (.string s) ∧ cut s = pure (strings texts) := by
  intro cut join
  have hcut : ∀ s, cut s = pure (strings (d.pieces s)) := fun s =>
    Division.applyOperation_cutting hr hd s location
  have hjoin : ∀ texts, join texts = pure (.string (d.joined texts)) := fun texts =>
    Division.applyOperation_joining hr texts location
  constructor
  · intro s
    refine ⟨d.pieces s, Division.isCut_pieces hd s, hcut s, ?_⟩
    rw [hjoin, Division.joined_pieces hd]
  · intro c hc texts hne h
    refine ⟨d.joined texts, hjoin texts, ?_⟩
    rw [hcut, Division.pieces_joined hc hne h]

/-- A separator that overlaps itself counts from the start, and strings that are empty are pieces
like others. -/
theorem cutting_and_joining_overlap :
    Registry.AgreeOn (Division.around "aa").names .catalog .standard ∧
    (Division.around "aa").separator ≠ "" ∧
    applyOperation .standard (.string "aaaxaa") "split" [.string "aa"] ".out" =
      pure (strings ["", "ax", ""]) ∧
    applyOperation .standard (strings ["", "ax", ""]) "join" [.string "aa"] ".out" =
      pure (.string "aaaxaa") ∧
    Registry.AgreeOn Division.words.names .catalog .standard ∧
    Division.words.separator ≠ "" ∧ Division.words.separator = String.singleton ' ' ∧
    ["", "é", ""] ≠ [] ∧ (∀ text ∈ ["", "é", ""], ' ' ∉ text.toList) ∧
    ∃ s, applyOperation .standard (strings ["", "é", ""]) "unwords" [] ".out" = pure (.string s) ∧
      applyOperation .standard (.string s) "words" [] ".out" = pure (strings ["", "é", ""]) := by
  have hagree := Division.agreeOn_names
  have haround : (Division.around "aa").separator ≠ "" := by decide
  have hwords : Division.words.separator ≠ "" := by decide
  have hspace : ∀ text ∈ ["", "é", ""], ' ' ∉ text.toList := by decide
  obtain ⟨pieces, hcut, hsplit, hjoin⟩ :=
    (cutting_and_joining (hagree (.around "aa")) haround ".out").1 "aaaxaa"
  obtain rfl : pieces = ["", "ax", ""] := by
    have hmap : pieces.map String.toList = ["", "ax", ""].map String.toList :=
      (Text.isCut_iff (by decide)).mp hcut
    exact List.map_injective_iff.mpr (fun _ _ => String.toList_injective) hmap
  have hback :=
    (cutting_and_joining (hagree .words) hwords ".out").2 ' ' rfl ["", "é", ""] (by simp) hspace
  exact ⟨hagree _, haround, hsplit, hjoin, hagree _, hwords, rfl, by simp, hspace, hback⟩

end Reshape
