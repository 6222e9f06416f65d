import Reshape.Proofs.CatalogCalls
import Reshape.Proofs.IndexNames
import Reshape.Proofs.RunningTotals

/-!
# The ends of arrays and strings

The operations on the ends of a value, its length and the indexes all look at the same elements: the
items of an array, or the characters of a string.  Each of them is stated by what it does to the
list of elements, and how they hang together follows from what lists are.  Removing an element from
an empty array or string, or from null, leaves an empty array.

Main results:

- Theorems `Json.first_eq`, `Json.last_eq`, `Json.elements_dropFirst`, `Json.elements_dropLast`: the
  ends of a value are those of its elements.
- Theorem `Json.elementAt_neg`: an index from the end is one from the start.
- Structure `TakesAt`: the element that an index takes under each of its names.
- Structure `SharesElements`: how the operations on one value hang together.
- Theorem `sequences_share_elements`: they do on every array and every string.
-/

namespace Reshape

namespace Json

/-! ## Values with elements -/

/-- Arrays and strings have elements. -/
inductive IsSequence : Json → Prop
  | array (items : List Json) : IsSequence (.array items)
  | string (s : String) : IsSequence (.string s)

/-- Two arrays or two strings. -/
inductive SameKind : Json → Json → Prop
  | arrays (xs ys : List Json) : SameKind (.array xs) (.array ys)
  | strings (s t : String) : SameKind (.string s) (.string t)

/-- What is of the same kind as another value has elements. -/
theorem SameKind.isSequence {v w : Json} (h : SameKind v w) : v.IsSequence := by
  cases h with
  | arrays xs ys => exact .array xs
  | strings s t => exact .string s

@[simp]
theorem elements_array (items : List Json) : (array items).elements = items :=
  rfl

@[simp]
theorem elements_ofChars (cs : List Char) :
    (ofChars cs).elements = cs.map fun c => ofChars [c] := by
  simp [elements, ofChars, characters]

@[simp]
theorem elements_string (s : String) :
    (string s).elements = s.toList.map fun c => ofChars [c] :=
  rfl

section Ends

variable (v : Json)

/-- The first element. -/
theorem first_eq : first v = v.elements.head?.getD null := by
  cases v with
  | string s => simp [first]
  | _ => simp [first, elements]

/-- The last element. -/
theorem last_eq : last v = v.elements.getLast?.getD null := by
  cases v with
  | string s => simp [last]
  | _ => simp [last, elements]

/-- All elements but the first. -/
theorem elements_dropFirst : (dropFirst v).elements = v.elements.tail := by
  cases v with
  | string s => by_cases hs : s = "" <;> simp [dropFirst, hs]
  | _ => simp [dropFirst, elements]

/-- All elements but the last. -/
theorem elements_dropLast : (dropLast v).elements = v.elements.dropLast := by
  cases v with
  | string s => by_cases hs : s = "" <;> simp [dropLast, hs]
  | _ => simp [dropLast, elements]

variable {v}

/-- The length is the number of elements. -/
theorem length_eq (hv : v.IsSequence) : length v = ofInt v.elements.length := by
  cases hv <;> simp [length]

/-- An array without its first item is an array, and a string is a string. -/
theorem sameKind_dropFirst (hv : v.IsSequence) (hne : v.elements ≠ []) :
    SameKind (dropFirst v) v := by
  cases hv with
  | array items => exact .arrays _ _
  | string s =>
    have hs : s ≠ "" := by simpa using hne
    have hrest : dropFirst (string s) = ofChars s.toList.tail := by simp [dropFirst, hs]
    rw [hrest]
    exact .strings _ _

/-- An array without its last item is an array, and a string is a string. -/
theorem sameKind_dropLast (hv : v.IsSequence) (hne : v.elements ≠ []) :
    SameKind (dropLast v) v := by
  cases hv with
  | array items => exact .arrays _ _
  | string s =>
    have hs : s ≠ "" := by simpa using hne
    have hrest : dropLast (string s) = ofChars s.toList.dropLast := by simp [dropLast, hs]
    rw [hrest]
    exact .strings _ _

/-- Where there is nothing to remove an empty array is left. -/
theorem dropEnds_of_elements_eq_nil (hv : v.IsSequence) (h : v.elements = []) :
    dropFirst v = array [] ∧ dropLast v = array [] := by
  cases hv with
  | array items =>
    have hitems : items = [] := h
    simp [dropFirst, dropLast, hitems]
  | string s =>
    have hs : s = "" := by simpa using h
    simp [dropFirst, dropLast, hs]

end Ends

/-- Strings are added by their characters. -/
theorem add_ofChars (cs ds : List Char) : add (ofChars cs) (ofChars ds) = ofChars (cs ++ ds) := by
  simp [add, ofChars]

section Strings

variable {s : String} (hs : s ≠ "")

include hs

/-- The first character in front of the others gives the string back. -/
theorem add_first_dropFirst : add (first (string s)) (dropFirst (string s)) = string s := by
  obtain ⟨c, cs, hcs⟩ := List.exists_cons_of_ne_nil (by simpa using hs : s.toList ≠ [])
  have hfirst : first (string s) = ofChars [c] := by simp [first, hcs]
  have hrest : dropFirst (string s) = ofChars cs := by simp [dropFirst, hs, hcs]
  rw [hfirst, hrest, add_ofChars, List.singleton_append, ← hcs, ofChars, String.ofList_toList]

/-- The last character behind the others gives the string back. -/
theorem add_dropLast_last : add (dropLast (string s)) (last (string s)) = string s := by
  have hne : s.toList ≠ [] := by simpa using hs
  have hlast : last (string s) = ofChars [s.toList.getLast hne] := by
    simp [last, List.getLast?_eq_some_getLast hne]
  have hfront : dropLast (string s) = ofChars s.toList.dropLast := by simp [dropLast, hs]
  rw [hlast, hfront, add_ofChars, List.dropLast_append_getLast, ofChars, String.ofList_toList]

end Strings

/-! ## Indexes -/

section Indexes

variable (v : Json)

/-- The index of an element takes it. -/
theorem elementAt_natCast (i : Nat) : v.elementAt i = v.elements[i]?.getD null := by
  rw [elementAt_eq_getD, elementAt?_natCast]

/-- An index from the end is one from the start. -/
theorem elementAt_neg {k : Nat} (hpos : 1 ≤ k) (hk : k ≤ v.elements.length) :
    v.elementAt (-k) = v.elementAt (v.elements.length - k) := by
  have hfront : ((v.elements.length - k : Nat) : Int) = v.elements.length - k := by omega
  have hback : -(k : Int) = (v.elements.length - k : Nat) - v.elements.length := by omega
  rw [hback, elementAt_eq_getD, elementAt?_sub_length _ (by omega), ← hfront, elementAt_natCast]

/-- The index zero takes the first element. -/
theorem elementAt_zero : v.elementAt 0 = first v := by
  rw [first_eq, List.head?_eq_getElem?]
  exact elementAt_natCast v 0

/-- The index minus one takes the last element. -/
theorem elementAt_neg_one : v.elementAt (-1) = last v := by
  rw [last_eq, List.getLast?_eq_getElem?]
  by_cases hempty : v.elements = []
  · rw [elementAt_eq_getD, elementAt?_eq_none _ (by simp [hempty])]
    simp [hempty]
  · have hpos := List.length_pos_of_ne_nil hempty
    have hlast : ((v.elements.length - 1 : Nat) : Int) = (v.elements.length : Int) - (1 : Nat) := by
      omega
    rw [← elementAt_natCast, hlast]
    exact elementAt_neg v le_rfl hpos

/-- Without the first element the others have the indexes before. -/
theorem elementAt_dropFirst (i : Nat) : (dropFirst v).elementAt i = v.elementAt (i + 1) := by
  have hnext : (i : Int) + 1 = (i + 1 : Nat) := by omega
  rw [hnext, elementAt_natCast, elementAt_natCast, elements_dropFirst, List.getElem?_tail]

/-- Without the last element the others keep their indexes. -/
theorem elementAt_dropLast {i : Nat} (hi : i < v.elements.length - 1) :
    (dropLast v).elementAt i = v.elementAt i := by
  rw [elementAt_natCast, elementAt_natCast, elements_dropLast, List.getElem?_dropLast, if_pos hi]

end Indexes

end Json

open Json

/-! ## Calls -/

/-- The operations on the ends of a value. -/
inductive EndOperation
  | first
  | last
  | dropFirst
  | dropLast

namespace EndOperation

/-- The name of an operation. -/
def name : EndOperation → String
  | first => "first"
  | last => "last"
  | dropFirst => "rmFirst"
  | dropLast => "rmLast"

/-- What an operation gives. -/
def compute : EndOperation → Json → Json
  | first => Json.first
  | last => Json.last
  | dropFirst => Json.dropFirst
  | dropLast => Json.dropLast

/-- The entries of the operations are in the catalog. -/
theorem entry_mem (op : EndOperation) :
    .direct op.name (.alone op.compute) ∈ Catalog.entries := by
  unfold Catalog.entries
  cases op <;> simp [Catalog.sequences, Catalog.Entry.direct, Catalog.Entry.maybe, name, compute]

end EndOperation

/-- The names of integers. -/
def integerNames : Set String :=
  {name | ∃ index, IntegerName name index}

/-- The names of integers have digits in them, and at most a minus sign besides. -/
theorem IntegerName.any_isDigit {name : String} {index : Int} (h : IntegerName name index) :
    name.toList.any Char.isDigit ∧ name.toList.all fun c => c.isDigit || c == '-' := by
  cases h with
  | natural hne h | negative hne h =>
    obtain ⟨c, cs, rfl⟩ := List.exists_cons_of_ne_nil hne
    have hc : c.isDigit := h c List.mem_cons_self
    have hcs : ∀ d ∈ cs, d.isDigit := fun d hd => h d (List.mem_cons_of_mem c hd)
    simp +contextual [hc, hcs]

/-- No operation of the catalog has the name of an integer. -/
theorem IntegerName.operation?_catalog {name : String} {index : Int} (h : IntegerName name index) :
    Registry.catalog.operation? name = none := by
  have hentries : ∀ entry ∈ Catalog.entries, ¬(entry.name.toList.any Char.isDigit ∧
      entry.name.toList.all fun c => c.isDigit || c == '-') := by decide
  apply Registry.operation?_catalog_eq_none
  intro hmem
  obtain ⟨entry, hentry, rfl⟩ := List.mem_map.mp hmem
  exact hentries entry hentry h.any_isDigit

/-- The names of the operations, and of the indexes. -/
def sequenceNames : Set String :=
  Set.range EndOperation.name ∪ {"length", "+"} ∪ integerNames

/-- The element that an index takes, under every name of the index. -/
structure TakesAt (r : Registry) (location : String) (v : Json) (index : Int) (item : Json) :
    Prop where
  elementAt_eq : v.elementAt index = item
  run_eq : ∀ name, IntegerName name index → isSigned64 index →
    applyOperation r v name [] location = pure item

/-- How the operations on one value with elements hang together.  Here `run` runs an operation, and
`takes` says what an index takes from a value. -/
structure SharesElements (run : Json → String → List Json → Run Json)
    (takes : Json → Int → Json → Prop) (v : Json) : Prop where
  takes_element : ∀ i (h : i < v.elements.length), takes v i v.elements[i]
  length_eq : run v "length" [] = pure (ofInt v.elements.length)
  first_eq : ∃ item, run v "first" [] = pure item ∧ takes v 0 item ∧
    (v.elements.length = 0 → item = .null)
  last_eq : ∃ item, run v "last" [] = pure item ∧ takes v (-1) item ∧
    (v.elements.length = 0 → item = .null)
  takes_neg : ∀ k : Nat, 1 ≤ k → k ≤ v.elements.length →
    ∃ item, takes v (-k) item ∧ takes v (v.elements.length - k) item
  dropFirst_eq : 1 ≤ v.elements.length → ∃ rest, run v "rmFirst" [] = pure rest ∧
    SameKind rest v ∧ run rest "length" [] = pure (ofInt (v.elements.length - 1)) ∧
    ∀ i : Nat, i < v.elements.length - 1 → ∃ item, takes rest i item ∧ takes v (i + 1) item
  dropLast_eq : 1 ≤ v.elements.length → ∃ front, run v "rmLast" [] = pure front ∧
    SameKind front v ∧ run front "length" [] = pure (ofInt (v.elements.length - 1)) ∧
    ∀ i : Nat, i < v.elements.length - 1 → ∃ item, takes front i item ∧ takes v i item
  add_eq : ∀ s, v = .string s → s ≠ "" → ∃ head rest front final,
    run v "first" [] = pure head ∧ run v "rmFirst" [] = pure rest ∧ run head "+" [rest] = pure v ∧
    run v "rmLast" [] = pure front ∧ run v "last" [] = pure final ∧ run front "+" [final] = pure v
  drop_eq_empty : v.elements.length = 0 →
    run v "rmFirst" [] = pure (.array []) ∧ run v "rmLast" [] = pure (.array [])

/-- The operation `length` gives the number of elements. -/
theorem applyOperation_length {r : Registry} (hr : Registry.AgreeOn {"length"} .catalog r)
    {v : Json} (hv : v.IsSequence) (location : String) :
    applyOperation r v "length" [] location = pure (ofInt v.elements.length) := by
  have hmem : .maybe "length" (.alone length) ∈ Catalog.entries := by
    simp [Catalog.entries, Catalog.sequences]
  have hne : v ≠ .null := by cases hv <;> simp
  rw [← length_eq hv]
  exact hr.applyOperation_alone hmem rfl hne location

section Calls

variable {r : Registry} (hr : Registry.AgreeOn sequenceNames .catalog r)

include hr

/-- An operation on the ends of a value gives what it computes. -/
theorem applyOperation_end (op : EndOperation) (v : Json) (location : String) :
    applyOperation r v op.name [] location = pure (op.compute v) :=
  hr.applyOperation_entry op.entry_mem (.inl (.inl (Set.mem_range_self op))) rfl location

/-- An index takes its element under all its names. -/
theorem takesAt_of_elementAt {v item : Json} {index : Int} (h : v.elementAt index = item)
    (location : String) : TakesAt r location v index item := by
  refine ⟨h, fun name hname hrange => ?_⟩
  have hindex := indexNamed?_of_integerName hname
  rw [if_pos hrange] at hindex
  have hnone : r.operation? name = none := by
    rw [← hr name (.inr ⟨index, hname⟩), hname.operation?_catalog]
  rw [← h]
  exact applyOperation_index r location hnone hindex v []

/-- Indexes that find the same element take the same one. -/
theorem exists_takesAt {v w : Json} {i j : Int} (h : v.elementAt i = w.elementAt j)
    (location : String) : ∃ item, TakesAt r location v i item ∧ TakesAt r location w j item :=
  ⟨_, takesAt_of_elementAt hr h location, takesAt_of_elementAt hr rfl location⟩

/-- The operations on an array or a string hang together. -/
theorem sharesElements {v : Json} (hv : v.IsSequence) (location : String) :
    SharesElements (fun v name arguments => applyOperation r v name arguments location)
      (TakesAt r location) v := by
  have hend := fun op => applyOperation_end hr op v location
  have hlength : Registry.AgreeOn {"length"} .catalog r :=
    hr.mono (Set.singleton_subset_iff.mpr (.inl (.inr (by simp))))
  have hplus : Registry.AgreeOn {"+"} .catalog r :=
    hr.mono (Set.singleton_subset_iff.mpr (.inl (.inr (by simp))))
  have hrest : ∀ rest, SameKind rest v → rest.elements.length = v.elements.length - 1 →
      1 ≤ v.elements.length →
      applyOperation r rest "length" [] location = pure (ofInt (v.elements.length - 1)) := by
    intro rest hkind heq hpos
    rw [applyOperation_length hlength hkind.isSequence, heq, Nat.cast_sub hpos, Nat.cast_one]
  have hnone : v.elements.length = 0 → v.elements = [] := List.eq_nil_of_length_eq_zero
  constructor
  · intro i hi
    have hitem : v.elementAt i = v.elements[i] := by
      rw [elementAt_natCast, List.getElem?_eq_getElem hi, Option.getD_some]
    exact takesAt_of_elementAt hr hitem location
  · exact applyOperation_length hlength hv location
  · refine ⟨_, hend .first, takesAt_of_elementAt hr (elementAt_zero v) location, fun hempty => ?_⟩
    simp [EndOperation.compute, Json.first_eq, hnone hempty]
  · refine ⟨_, hend .last, takesAt_of_elementAt hr (elementAt_neg_one v) location, fun hempty => ?_⟩
    simp [EndOperation.compute, Json.last_eq, hnone hempty]
  · intro k hpos hk
    exact exists_takesAt hr (elementAt_neg v hpos hk) location
  · intro hpos
    have hkind := sameKind_dropFirst hv (List.ne_nil_of_length_pos hpos)
    have hcount := hrest _ hkind (by simp [elements_dropFirst]) hpos
    refine ⟨_, hend .dropFirst, hkind, hcount, ?_⟩
    exact fun i _ => exists_takesAt hr (elementAt_dropFirst v i) location
  · intro hpos
    have hkind := sameKind_dropLast hv (List.ne_nil_of_length_pos hpos)
    have hcount := hrest _ hkind (by simp [elements_dropLast]) hpos
    refine ⟨_, hend .dropLast, hkind, hcount, ?_⟩
    exact fun i hi => exists_takesAt hr (elementAt_dropLast v hi) location
  · rintro s rfl hs
    have hhead := (applyOperation_plus hplus _ _ location).trans
      (congrArg pure (add_first_dropFirst hs))
    have hfinal := (applyOperation_plus hplus _ _ location).trans
      (congrArg pure (add_dropLast_last hs))
    exact ⟨_, _, _, _, hend .first, hend .dropFirst, hhead, hend .dropLast, hend .last, hfinal⟩
  · intro hempty
    obtain ⟨hfirst, hlast⟩ := dropEnds_of_elements_eq_nil hv (hnone hempty)
    exact ⟨(hend .dropFirst).trans (congrArg pure hfirst),
      (hend .dropLast).trans (congrArg pure hlast)⟩

/-- On every array and every string, by its characters, the operations on the ends, the length and
the indexes look at the same elements: the ends are the elements at the indexes zero and minus one,
an index from the end is one from the start, and removing an end leaves a value of the same kind
with the other elements in their order.  From null nothing can be removed either, and an empty array
is left. -/
theorem sequences_share_elements (location : String) :
    let run := fun v name arguments => applyOperation r v name arguments location
    (∀ v : Json, v.IsSequence → SharesElements run (TakesAt r location) v) ∧
    run .null "rmFirst" [] = pure (.array []) ∧ run .null "rmLast" [] = pure (.array []) :=
  ⟨fun _ hv => sharesElements hr hv location, applyOperation_end hr .dropFirst .null location,
    applyOperation_end hr .dropLast .null location⟩

end Calls

/-- The last character of a string by its name, by the index minus one, and as what is left without
the first one. -/
theorem sequences_share_elements_accent :
    Registry.AgreeOn sequenceNames .catalog .standard ∧ (Json.string "éa").IsSequence ∧
    applyOperation .standard (.string "éa") "last" [] ".out" = pure (.string "a") ∧
    IntegerName "-1" (-1) ∧ isSigned64 (-1) ∧
    applyOperation .standard (.string "éa") "-1" [] ".out" = pure (.string "a") ∧
    ∃ rest, applyOperation .standard (.string "éa") "rmFirst" [] ".out" = pure rest ∧
      rest.SameKind (.string "éa") ∧
      applyOperation .standard rest "length" [] ".out" = pure (ofInt 1) := by
  have hr : Registry.AgreeOn sequenceNames .catalog .standard := by
    apply Registry.agreeOn_standard
    rintro ((⟨op, hname⟩ | hname) | ⟨index, hname⟩)
    · cases op <;> simp [EndOperation.name] at hname
    · simp at hname
    · exact absurd hname.any_isDigit (by decide)
  have hv : (Json.string "éa").IsSequence := .string "éa"
  have hminus : IntegerName "-1" (-1) := IntegerName.negative (by decide) (by decide)
  have hrange : isSigned64 (-1) := by decide
  have h := (sequences_share_elements hr ".out").1 _ hv
  obtain ⟨item, hlast, htakes, -⟩ := h.last_eq
  obtain rfl : item = .string "a" := htakes.elementAt_eq.symm.trans (by decide)
  obtain ⟨rest, hrest, hkind, hlength, -⟩ := h.dropFirst_eq (by decide)
  exact ⟨hr, hv, hlast, hminus, hrange, htakes.run_eq "-1" hminus hrange, rest, hrest, hkind,
    hlength⟩

end Reshape
