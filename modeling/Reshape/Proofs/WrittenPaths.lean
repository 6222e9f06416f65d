import Reshape.Proofs.PathGrammar
import Reshape.Proofs.RenderedValues
import Reshape.Proofs.TemplateNodes

/-!
# Written paths

Steps are written as a path: a key behind a point, unless it is the first step, and an index
in brackets.  Reading puts a key and the index behind it into one level, gives every further
index a level with an empty key, and refuses the whole path when one index has too many bits.

It does not matter that a level that is none is found before the path is followed: it leads
nowhere, and nowhere is where the path leads.  So a path is followed text by text, and each
text takes one step, or two when it is a key with an index.

Main results:

- Definition `Path.ofSteps`: the path that steps are written as.
- Definition `Json.reach?`: what a step leads to.
- Theorem `Json.extract_eq_followTexts`: a path is followed text by text.
- Theorem `Json.extract_ofSteps`: a written path leads where its steps lead.
-/

namespace Reshape

/-! ## Texts of levels -/

/-- A text goes on with the first piece of what follows it. -/
theorem Text.splitOn_append_of_notMem {separator : Char} {front : List Char}
    (h : separator ∉ front) (rest : List Char) :
    (front ++ rest).splitOn separator = (rest.splitOn separator).modifyHead (front ++ ·) := by
  induction front with
  | nil =>
    rw [List.nil_append]
    cases rest.splitOn separator <;> rfl
  | cons c front ih =>
    simp only [List.mem_cons, not_or] at h
    have hc : ¬(c == separator) = true := by simpa using Ne.symm h.1
    rw [List.cons_append, List.splitOn_cons_eq_if_modifyHead, if_neg hc, ih h.2,
      List.modifyHead_modifyHead]
    rfl

namespace Path

/-- The texts of the levels of a path. -/
def texts (path : List Char) : List (List Char) :=
  (path.splitOn '.').flatMap levelTexts

/-- A path is read text by text. -/
theorem parse_eq_mapM (path : String) : parse path = (texts path.toList).mapM level := by
  rw [parse, texts, Text.splitOn_singleton]

/-- A text without points and brackets is the text of one level, or of none. -/
theorem texts_key {key : List Char} (hpoint : '.' ∉ key) (hkey : HasNoBrackets key) :
    texts key = if key.isEmpty then [] else [key] := by
  rw [texts, List.splitOn_eq_singleton hpoint, List.flatMap_singleton,
    levelTexts_of_notMem hkey.2]

/-- A point stands between texts. -/
theorem texts_append_point (front rest : List Char) :
    texts (front ++ '.' :: rest) = texts front ++ texts rest := by
  rw [texts, List.splitOn_append_cons_self, List.flatMap_append, texts, texts]

/-- A closing bracket ends a text. -/
theorem texts_append_bracket {text : List Char} (hpoint : '.' ∉ text) (hclosing : ']' ∉ text)
    (rest : List Char) : texts (text ++ ']' :: rest) = text :: texts rest := by
  obtain ⟨first, others, hrest⟩ :=
    List.exists_cons_of_ne_nil (List.splitOn_ne_nil '.' rest)
  have hfront : '.' ∉ text ++ [']'] := by simp [hpoint]
  have htext : text ++ ']' :: rest = (text ++ [']']) ++ rest := by simp
  rw [texts, htext, Text.splitOn_append_of_notMem hfront, hrest, List.modifyHead_cons,
    List.flatMap_cons, List.append_assoc, List.singleton_append,
    levelTexts_append_bracket hclosing, texts, hrest, List.flatMap_cons]
  rfl

end Path

namespace Json

/-- What the text of a level leads to.  A text that is no level leads nowhere. -/
def followText? (v : Json) (text : List Char) : Option Json :=
  (Path.level text).toOption.bind v.descend?

/-- Following levels text by text is reading them all and following what is read. -/
theorem foldlM_followText? (texts : List (List Char)) (v : Json) :
    texts.foldlM followText? v = (texts.mapM Path.level).toOption.bind v.follow? := by
  induction texts generalizing v with
  | nil => rfl
  | cons text texts ih =>
    rw [List.foldlM_cons, List.mapM_cons, followText?]
    simp only [ih]
    cases Path.level text with
    | error fault => rfl
    | ok level =>
      cases texts.mapM Path.level with
      | error fault => exact Option.bind_fun_none (v.descend? level)
      | ok levels => rfl

/-- A path is followed text by text. -/
theorem extract_eq_followTexts (v : Json) (path : String) :
    v.extract path = ((Path.texts path.toList).foldlM followText? v).getD null := by
  rw [foldlM_followText?, ← Path.parse_eq_mapM]
  cases hparse : Path.parse path with
  | error fault => exact extract_of_parse_error hparse v
  | ok levels => exact extract_of_parse hparse v

end Json

/-! ## Steps -/

/-- A step as it is written behind others. -/
def Step.written : Step → List Char
  | .field name => '.' :: name.toList
  | .item index => '[' :: Nat.toDigits 10 index ++ [']']

/-- The steps that can be written: all items, and the keys that are not empty, have no points
and brackets in them and do not start with a plus sign. -/
def Step.IsWritable : Step → Prop
  | .field name =>
    name ≠ "" ∧ '.' ∉ name.toList ∧ Path.HasNoBrackets name.toList ∧ name.toList.head? ≠ some '+'
  | .item _ => True

instance : DecidablePred Step.IsWritable
  | .field name => inferInstanceAs (Decidable (name ≠ "" ∧ '.' ∉ name.toList ∧
      ('[' ∉ name.toList ∧ ']' ∉ name.toList) ∧ name.toList.head? ≠ some '+'))
  | .item _ => .isTrue trivial

/-- The path that steps are written as.  There is no point in front of the first step. -/
def Path.ofSteps : List Step → String
  | .field name :: steps => String.ofList (name.toList ++ steps.flatMap Step.written)
  | steps => String.ofList (steps.flatMap Step.written)

namespace Json

/-- The item at a position of at most 64 bits. -/
def itemAt? (items : List Json) (index : Nat) : Option Json :=
  if isUnsigned64 index then items[index]? else none

/-- What a step leads to: the field of an object or the item of an array.  Digits as a key
lead to an item, too. -/
def reach? : Json → Step → Option Json
  | object fields, .field name => Fields.get? name fields
  | array items, .field name =>
    if name.toList ≠ [] ∧ IsDigits name.toList then itemAt? items (natOfDigits name.toList)
    else none
  | array items, .item index => itemAt? items index
  | _, _ => none

/-- The item at digits is the one at the index that is read there. -/
theorem bind_readIndex? {cs : List Char} (h : cs.head? ≠ some '+') (items : List Json) :
    (readIndex? cs).bind (fun index => items[index]?) =
      if cs ≠ [] ∧ IsDigits cs then itemAt? items (natOfDigits cs) else none := by
  by_cases hindex : IsIndexText cs
  · obtain ⟨hne, hdigits, hrange⟩ := hindex
    rw [(readIndex?_eq_some_iff h).mpr ⟨⟨hne, hdigits, hrange⟩, rfl⟩, if_pos ⟨hne, hdigits⟩,
      itemAt?, if_pos hrange, Option.bind_some]
  · have hnone : readIndex? cs = none :=
      Option.eq_none_iff_forall_ne_some.mpr fun index hsome =>
        hindex ((readIndex?_eq_some_iff h).mp hsome).1
    rw [hnone, Option.bind_none]
    split
    · rename_i hdigits
      have hrange : ¬isUnsigned64 (natOfDigits cs) := fun hrange =>
        hindex ⟨hdigits.1, hdigits.2, hrange⟩
      rw [itemAt?, if_neg hrange]
    · rfl

/-- A key that does not start with a plus sign leads where the step does. -/
theorem child?_eq_reach? {name : String} (h : name.toList.head? ≠ some '+') (v : Json) :
    v.child? name = v.reach? (.field name) := by
  cases v with
  | array items => exact bind_readIndex? h items
  | object fields => rfl
  | null | bool | number | string => rfl

/-- The text of a key takes one step. -/
theorem followText?_key {key : List Char} (hkey : Path.HasNoBrackets key)
    (hplus : key.head? ≠ some '+') (v : Json) :
    v.followText? key = v.reach? (.field (String.ofList key)) := by
  rw [followText?, Path.level_of_notMem hkey.1]
  simp [Except.toOption, descend?, child?_eq_reach?, hplus]

/-- An index of at most 64 bits takes an item, and other indexes lead nowhere. -/
theorem reach?_item (v : Json) (index : Nat) :
    v.reach? (.item index) = if isUnsigned64 index then v.item? index else none := by
  cases v <;> simp [reach?, itemAt?, item?]

/-- The text of an index behind a key takes a step for the key, unless that is empty, and one
for the index. -/
theorem followText?_index {key : List Char} (hkey : Path.HasNoBrackets key)
    (hplus : key.head? ≠ some '+') (v : Json) (index : Nat) :
    v.followText? (key ++ '[' :: Nat.toDigits 10 index) =
      (if key.isEmpty then some v else v.reach? (.field (String.ofList key))).bind
        (·.reach? (.item index)) := by
  have hdigits := isDigits_toDigits index
  have hread : ∀ n, readIndex? (Nat.toDigits 10 index) = some n ↔
      isUnsigned64 index ∧ index = n := by
    intro n
    rw [readIndex?_eq_some_iff hdigits.head?_ne_plus, natOfDigits_toDigits, IsIndexText,
      natOfDigits_toDigits]
    simp [hdigits]
  rw [followText?, Path.level_append_bracket hkey.1]
  simp only [reach?_item]
  by_cases hrange : isUnsigned64 index
  · simp [(hread index).mpr ⟨hrange, rfl⟩, hrange, Except.toOption, descend?, child?_eq_reach?,
      hplus]
  · have hnone : readIndex? (Nat.toDigits 10 index) = none :=
      Option.eq_none_iff_forall_ne_some.mpr fun n hn => hrange ((hread n).mp hn).1
    simp [hnone, hrange, Except.toOption]

/-! ## Written paths -/

/-- A key takes one step, and the empty key none. -/
theorem foldlM_followText?_key {key : List Char} (hpoint : '.' ∉ key)
    (hkey : Path.HasNoBrackets key) (hplus : key.head? ≠ some '+') (v : Json) :
    (Path.texts key).foldlM followText? v =
      if key.isEmpty then some v else v.reach? (.field (String.ofList key)) := by
  rw [Path.texts_key hpoint hkey]
  split
  · rfl
  · simp [followText?_key hkey hplus]

/-- A key and the steps written behind it lead where the key and the steps lead. -/
theorem foldlM_followText?_written {steps : List Step} (h : ∀ step ∈ steps, step.IsWritable)
    {key : List Char} (hpoint : '.' ∉ key) (hkey : Path.HasNoBrackets key)
    (hplus : key.head? ≠ some '+') (v : Json) :
    (Path.texts (key ++ steps.flatMap Step.written)).foldlM followText? v =
      (if key.isEmpty then some v else v.reach? (.field (String.ofList key))).bind
        fun w => steps.foldlM reach? w := by
  -- The key in front is what has been written since the last bracket or point.
  induction steps generalizing key v with
  | nil =>
    rw [List.flatMap_nil, List.append_nil, foldlM_followText?_key hpoint hkey hplus]
    exact (Option.bind_fun_some _).symm
  | cons step steps ih =>
    obtain ⟨hstep, hrest⟩ := List.forall_mem_cons.mp h
    cases step with
    | item index =>
      have htext : key ++ (Step.item index :: steps).flatMap Step.written =
          (key ++ '[' :: Nat.toDigits 10 index) ++ ']' :: ([] ++ steps.flatMap Step.written) := by
        simp [Step.written]
      have hdigits := isDigits_toDigits index
      have hfront : '.' ∉ key ++ '[' :: Nat.toDigits 10 index := by
        simp [hpoint, hdigits.notMem (by decide : ¬Char.isDigit '.')]
      have hclosing : ']' ∉ key ++ '[' :: Nat.toDigits 10 index := by
        simp [hkey.2, hdigits.notMem (by decide : ¬Char.isDigit ']')]
      rw [htext, Path.texts_append_bracket hfront hclosing, List.foldlM_cons,
        followText?_index hkey hplus]
      simp only [ih hrest List.not_mem_nil Path.hasNoBrackets_nil nofun, List.foldlM_cons]
      exact Option.bind_assoc _ _ _
    | field name =>
      have htext : key ++ (Step.field name :: steps).flatMap Step.written =
          key ++ '.' :: (name.toList ++ steps.flatMap Step.written) := by
        simp [Step.written]
      obtain ⟨hne, hpoint', hkey', hplus'⟩ := hstep
      rw [htext, Path.texts_append_point, List.foldlM_append,
        foldlM_followText?_key hpoint hkey hplus]
      simp only [ih hrest hpoint' hkey' hplus', List.foldlM_cons]
      simp [hne]

/-- It does not matter for the texts that there is no point in front of the first step. -/
theorem texts_ofSteps (steps : List Step) :
    Path.texts (Path.ofSteps steps).toList = Path.texts (steps.flatMap Step.written) := by
  cases steps with
  | nil => rfl
  | cons step steps =>
    cases step with
    | item index =>
      rw [Path.ofSteps, String.toList_ofList]
      nofun
    | field name =>
      have hpoint := Path.texts_append_point [] (name.toList ++ steps.flatMap Step.written)
      rw [Path.ofSteps, String.toList_ofList]
      simpa [Step.written, Path.texts_key List.not_mem_nil Path.hasNoBrackets_nil] using hpoint.symm

/-- A written path leads where its steps lead one by one, and to null when one of them leads
nowhere. -/
theorem extract_ofSteps {steps : List Step} (h : ∀ step ∈ steps, step.IsWritable) (v : Json) :
    v.extract (Path.ofSteps steps) = (steps.foldlM reach? v).getD null := by
  have hsteps := foldlM_followText?_written h List.not_mem_nil Path.hasNoBrackets_nil nofun v
  rw [extract_eq_followTexts, texts_ofSteps]
  exact congrArg (·.getD null) hsteps

/-- An array of objects with rows in them. -/
def sheets : Json :=
  array [object [("rows", array [null, array [array [ofInt 5, ofInt 6,
    object [("-x", bool true)]]]])]]

/-- Steps of all kinds: an index in front, indexes behind a key and behind each other, and a
key of digits with a zero in front. -/
def sheetSteps : List Step :=
  [.item 0, .field "rows", .item 1, .item 0, .field "02", .field "-x"]

/-- The steps lead to the one truth value. -/
theorem extract_ofSteps_sheets :
    (∀ step ∈ sheetSteps, step.IsWritable) ∧
    Path.ofSteps sheetSteps = "[0].rows[1][0].02.-x" ∧
    sheets.extract (Path.ofSteps sheetSteps) = bool true := by
  have hsteps : ∀ step ∈ sheetSteps, step.IsWritable := by decide +kernel
  have hpath : Path.ofSteps sheetSteps = "[0].rows[1][0].02.-x" := by decide +kernel
  have hvalue : (sheetSteps.foldlM reach? sheets).getD null = bool true := by decide +kernel
  exact ⟨hsteps, hpath, (extract_ofSteps hsteps sheets).trans hvalue⟩

end Json

end Reshape
