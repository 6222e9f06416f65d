import Mathlib.Data.List.Induction
import Reshape.Json.Dialect
import Reshape.Proofs.StringTexts

/-!
# Grammars of written values

A grammar tells which texts stand for which values: the scalars and names it is given,
arrays and objects of any depth, blanks between their parts, and a comma behind the last
part where that is allowed.  The last value under a name counts, so what an object stands
for is told by its names alone and not by how a reader collects them.

Main results:

- Theorem `Fields.collects_iff`: how the fields of an object are collected.
- Definition `Grammar.Derives`: the texts of values, items and fields.
- Theorem `Grammar.Derives.mono`: derivations in a grammar that allows more.
-/

namespace Reshape

/-! ## Fields -/

namespace Fields

variable {α : Type}

/-- Fields that hold under each name the last of the values written under it. -/
def Collects (entries : List (String × α)) (fields : Fields α) : Prop :=
  fields.Sorted ∧ ∀ name, fields.get? name = get? name entries.reverse

/-- Nothing is found under a name when no field has it. -/
theorem get?_eq_none_iff {name : String} {fields : Fields α} :
    fields.get? name = none ↔ ∀ field ∈ fields, field.1 ≠ name := by
  induction fields with
  | nil => simp [get?]
  | cons field fields ih =>
    rw [get?, List.forall_mem_cons, ← ih]
    by_cases hname : field.1 = name <;> simp [hname]

/-- A name in front of all others is not found. -/
theorem get?_eq_none_of_lt {name : String} {fields : Fields α}
    (h : ∀ field ∈ fields, name < field.1) : fields.get? name = none :=
  get?_eq_none_iff.mpr fun field hfield heq => String.lt_irrefl name (heq ▸ h field hfield)

/-- The first of the ascending names is found nowhere behind. -/
theorem Sorted.get?_tail {key : String} {value : α} {fields : Fields α}
    (h : Sorted ((key, value) :: fields)) : fields.get? key = none :=
  get?_eq_none_of_lt (List.pairwise_cons.mp h).1

/-- The first name of some fields is not found in others when it is in front of theirs. -/
theorem not_lt_of_get?_eq {key other : String} {value value' : α} {fields fields' : Fields α}
    (h : Sorted ((other, value') :: fields'))
    (heq : ∀ name, get? name ((key, value) :: fields) = get? name ((other, value') :: fields')) :
    ¬ key < other := by
  intro hlt
  have hnone : get? key ((other, value') :: fields') = none := by
    apply get?_eq_none_of_lt
    refine List.forall_mem_cons.mpr ⟨hlt, fun field hfield => ?_⟩
    exact String.lt_trans hlt ((List.pairwise_cons.mp h).1 field hfield)
  have hkey := heq key
  rw [hnone, get?, if_pos rfl] at hkey
  contradiction

/-- Ascending fields are told by what is found in them. -/
theorem Sorted.ext {fields fields' : Fields α} (h : fields.Sorted) (h' : fields'.Sorted)
    (heq : ∀ name, fields.get? name = fields'.get? name) : fields = fields' := by
  induction fields generalizing fields' with
  | nil =>
    cases fields' with
    | nil => rfl
    | cons field fields' =>
      have := heq field.1
      simp [get?] at this
  | cons field fields ih =>
    obtain ⟨key, value⟩ := field
    cases fields' with
    | nil =>
      have := heq key
      simp [get?] at this
    | cons field' fields' =>
      obtain ⟨other, value'⟩ := field'
      obtain rfl : key = other := String.le_antisymm
        (String.not_lt.mp (not_lt_of_get?_eq h fun name => (heq name).symm))
        (String.not_lt.mp (not_lt_of_get?_eq h' heq))
      obtain rfl : value = value' := by simpa [get?] using heq key
      congr 1
      refine ih (List.pairwise_cons.mp h).2 (List.pairwise_cons.mp h').2 fun name => ?_
      by_cases hname : key = name
      · rw [← hname, h.get?_tail, h'.get?_tail]
      · simpa [get?, hname] using heq name

/-- Fields set from left to right are the ones that hold the last values. -/
theorem collects_ofList (entries : List (String × α)) : Collects entries (ofList entries) := by
  induction entries using List.reverseRecOn with
  | nil => exact ⟨List.Pairwise.nil, fun _ => rfl⟩
  | append_singleton entries entry ih =>
    obtain ⟨key, value⟩ := entry
    have hset : ofList (entries ++ [(key, value)]) = (ofList entries).set key value := by
      simp [ofList]
    rw [hset]
    refine ⟨ih.1.set key value, fun name => ?_⟩
    rw [get?_set, ih.2 name, List.reverse_append]
    rfl

/-- Only the fields set from left to right hold the last values. -/
theorem collects_iff {entries : List (String × α)} {fields : Fields α} :
    Collects entries fields ↔ fields = ofList entries := by
  constructor
  · intro h
    have hset := collects_ofList entries
    exact h.1.ext hset.1 fun name => (h.2 name).trans (hset.2 name).symm
  · rintro rfl
    exact collects_ofList entries

/-- What is found in one list of fields behind another. -/
theorem get?_append (name : String) (fields fields' : Fields α) :
    get? name (fields ++ fields') = (get? name fields).or (get? name fields') := by
  induction fields with
  | nil => rfl
  | cons field fields ih =>
    by_cases hname : field.1 = name <;> simp [get?, hname, ih]

/-- Ascending fields collect themselves. -/
theorem Sorted.collects {fields : Fields α} (h : fields.Sorted) : Collects fields fields := by
  refine ⟨h, fun name => ?_⟩
  induction fields with
  | nil => rfl
  | cons field fields ih =>
    obtain ⟨key, value⟩ := field
    rw [List.reverse_cons, get?_append, ← ih (List.pairwise_cons.mp h).2]
    by_cases hname : key = name
    · rw [← hname, h.get?_tail]
      simp [get?]
    · simp [get?, hname]

end Fields

/-! ## Grammars -/

/-- What a text can stand for: a value, a value with blanks around it, the items of an
array, or the fields of an object in the order in which they are written. -/
inductive Phrase where
  | value (v : Json)
  | slot (v : Json)
  | items (items : List Json)
  | fields (fields : List (String × Json))

/-- The choices in which grammars of values differ. -/
structure Grammar where
  isBlank : Char → Bool
  IsScalar : List Char → Json → Prop
  IsName : List Char → String → Prop
  allowsTrailingComma : Bool

namespace Grammar

/-- A text of blanks. -/
def Blanks (g : Grammar) (cs : List Char) : Prop :=
  ∀ c ∈ cs, g.isBlank c

/-- The empty text is one of blanks. -/
theorem blanks_nil (g : Grammar) : g.Blanks [] := by
  simp [Blanks]

/-- What can stand behind the last part of a container. -/
def Tail (g : Grammar) (cs : List Char) : Prop :=
  cs = [] ∨ g.allowsTrailingComma ∧ ∃ blanks, g.Blanks blanks ∧ cs = ',' :: blanks

/-- A name with blanks around it. -/
def Label (g : Grammar) (name : String) (cs : List Char) : Prop :=
  ∃ before key after, g.Blanks before ∧ g.IsName key name ∧ g.Blanks after ∧
    cs = before ++ (key ++ after)

/-- The texts that stand for something, where containers nest at most as deep as given. -/
inductive Derives (g : Grammar) : Option Nat → Phrase → List Char → Prop
  | scalar {depth : Option Nat} {v : Json} {text : List Char} : g.IsScalar text v →
      Derives g depth (.value v) text
  | emptyArray {depth inner : Option Nat} {blanks : List Char} :
      Dialect.enter? depth = some inner → g.Blanks blanks →
      Derives g depth (.value (.array [])) ('[' :: (blanks ++ [']']))
  | array {depth inner : Option Nat} {items : List Json} {text : List Char} :
      Dialect.enter? depth = some inner → Derives g inner (.items items) text →
      Derives g depth (.value (.array items)) ('[' :: (text ++ [']']))
  | emptyObject {depth inner : Option Nat} {blanks : List Char} :
      Dialect.enter? depth = some inner → g.Blanks blanks →
      Derives g depth (.value (.object [])) ('{' :: (blanks ++ ['}']))
  | object {depth inner : Option Nat} {entries : List (String × Json)} {fields : Fields Json}
      {text : List Char} : Dialect.enter? depth = some inner →
      Derives g inner (.fields entries) text → Fields.Collects entries fields →
      Derives g depth (.value (.object fields)) ('{' :: (text ++ ['}']))
  | slot {depth : Option Nat} {v : Json} {before text after : List Char} : g.Blanks before →
      Derives g depth (.value v) text → g.Blanks after →
      Derives g depth (.slot v) (before ++ (text ++ after))
  | lastItem {depth : Option Nat} {v : Json} {text tail : List Char} :
      Derives g depth (.slot v) text → g.Tail tail → Derives g depth (.items [v]) (text ++ tail)
  | items {depth : Option Nat} {v : Json} {items : List Json} {text more : List Char} :
      Derives g depth (.slot v) text → Derives g depth (.items items) more →
      Derives g depth (.items (v :: items)) (text ++ ',' :: more)
  | lastField {depth : Option Nat} {name : String} {v : Json} {label text tail : List Char} :
      g.Label name label → Derives g depth (.slot v) text → g.Tail tail →
      Derives g depth (.fields [(name, v)]) (label ++ ':' :: (text ++ tail))
  | fields {depth : Option Nat} {name : String} {v : Json} {fields : List (String × Json)}
      {label text more : List Char} : g.Label name label → Derives g depth (.slot v) text →
      Derives g depth (.fields fields) more →
      Derives g depth (.fields ((name, v) :: fields)) (label ++ ':' :: (text ++ ',' :: more))

/-! ## Larger grammars -/

variable {g g' : Grammar} {P : List Char → Prop}

/-- A grammar allows in the texts with a property whatever another one allows there. -/
structure Extends (P : List Char → Prop) (g g' : Grammar) : Prop where
  partClosed : PartClosed P
  isBlank {c : Char} : g.isBlank c → g'.isBlank c
  isScalar {text : List Char} {v : Json} : P text → g.IsScalar text v → g'.IsScalar text v
  isName {text : List Char} {name : String} : P text → g.IsName text name → g'.IsName text name
  allowsTrailingComma : g.allowsTrailingComma → g'.allowsTrailingComma

/-- Blanks stay blanks. -/
theorem Extends.blanks (h : Extends P g g') {cs : List Char} (hcs : g.Blanks cs) :
    g'.Blanks cs :=
  fun c hc => h.isBlank (hcs c hc)

/-- What can stand behind a last part still can. -/
theorem Extends.tail (h : Extends P g g') {cs : List Char} (hcs : g.Tail cs) : g'.Tail cs := by
  rcases hcs with rfl | ⟨hcomma, blanks, hblanks, rfl⟩
  · exact .inl rfl
  · exact .inr ⟨h.allowsTrailingComma hcomma, blanks, h.blanks hblanks, rfl⟩

/-- A name with blanks around it stays one. -/
theorem Extends.label (h : Extends P g g') {name : String} {cs : List Char} (hP : P cs)
    (hcs : g.Label name cs) : g'.Label name cs := by
  rcases hcs with ⟨before, key, after, hbefore, hkey, hafter, rfl⟩
  have hPkey := (h.partClosed _ _ (h.partClosed _ _ hP).2).1
  exact ⟨before, key, after, h.blanks hbefore, h.isName hPkey hkey, h.blanks hafter, rfl⟩

/-- Containers can nest as deep as before, or without end. -/
def Deeper (depth depth' : Option Nat) : Prop :=
  depth' = none ∨ depth' = depth

/-- Where containers can nest deeper, one more container fits as well. -/
theorem Deeper.enter? {depth depth' inner : Option Nat} (h : Deeper depth depth')
    (hinner : Dialect.enter? depth = some inner) :
    ∃ inner', Dialect.enter? depth' = some inner' ∧ Deeper inner inner' := by
  rcases h with rfl | rfl
  · exact ⟨none, rfl, .inl rfl⟩
  · exact ⟨inner, hinner, .inr rfl⟩

/-- A text stands for the same in a larger grammar. -/
theorem Derives.mono (h : Extends P g g') {depth depth' : Option Nat} {phrase : Phrase}
    {text : List Char} (hderives : g.Derives depth phrase text) (hP : P text)
    (hdepth : Deeper depth depth') : g'.Derives depth' phrase text := by
  have hpart := h.partClosed
  induction hderives generalizing depth' with
  | scalar hscalar => exact .scalar (h.isScalar hP hscalar)
  | emptyArray hinner hblanks =>
    rcases hdepth.enter? hinner with ⟨inner', hinner', -⟩
    exact .emptyArray hinner' (h.blanks hblanks)
  | array hinner _ ih =>
    rcases hdepth.enter? hinner with ⟨inner', hinner', hdepth'⟩
    exact .array hinner' (ih (hpart _ _ (hpart ['['] _ hP).2).1 hdepth')
  | emptyObject hinner hblanks =>
    rcases hdepth.enter? hinner with ⟨inner', hinner', -⟩
    exact .emptyObject hinner' (h.blanks hblanks)
  | object hinner _ hfields ih =>
    rcases hdepth.enter? hinner with ⟨inner', hinner', hdepth'⟩
    exact .object hinner' (ih (hpart _ _ (hpart ['{'] _ hP).2).1 hdepth') hfields
  | slot hbefore _ hafter ih =>
    exact .slot (h.blanks hbefore) (ih (hpart _ _ (hpart _ _ hP).2).1 hdepth) (h.blanks hafter)
  | lastItem _ htail ih => exact .lastItem (ih (hpart _ _ hP).1 hdepth) (h.tail htail)
  | items _ _ ihslot ihitems =>
    obtain ⟨hslot, hmore⟩ := hpart _ _ hP
    exact .items (ihslot hslot hdepth) (ihitems (hpart [','] _ hmore).2 hdepth)
  | lastField hlabel _ htail ih =>
    obtain ⟨hPlabel, hmore⟩ := hpart _ _ hP
    exact .lastField (h.label hPlabel hlabel) (ih (hpart _ _ (hpart [':'] _ hmore).2).1 hdepth)
      (h.tail htail)
  | fields hlabel _ _ ihslot ihfields =>
    obtain ⟨hPlabel, hmore⟩ := hpart _ _ hP
    obtain ⟨hslot, hrest⟩ := hpart _ _ (hpart [':'] _ hmore).2
    exact .fields (h.label hPlabel hlabel) (ihslot hslot hdepth)
      (ihfields (hpart [','] _ hrest).2 hdepth)

end Grammar

end Reshape
