import Mathlib.Logic.Relation
import Reshape.Files.Tables
import Reshape.Proofs.PathLevels

/-!
# Paths that count as one

A path is told from others by its components.  Repeated separators count as one, a separator at
the end counts for nothing, and neither does a point, unless the path starts with it.  So two paths
count as one when they come from each other by leaving such characters out and putting them in.

The tables are kept under lists of names.  Leaving something out keeps the list of a path, and
every path can be brought into the form that its list stands for.

Main results:

- Definition `SamePath`: paths that count as one.
- Theorem `pathKey_eq_iff`: exactly these are kept under the same names.
-/

namespace Reshape

/-! ## Leaving out -/

/-- A path and the same path without a character or two that it does not need. -/
inductive Shortens : List Char → List Char → Prop
  | separator (front back : List Char) :
      Shortens (front ++ '/' :: '/' :: back) (front ++ '/' :: back)
  | point (front back : List Char) :
      Shortens (front ++ '/' :: '.' :: '/' :: back) (front ++ '/' :: back)
  | lastPoint (front : List Char) : Shortens (front ++ ['/', '.']) (front ++ ['/'])
  | lastSeparator {front : List Char} (h : front ≠ []) : Shortens (front ++ ['/']) front

/-- Texts of paths that come from each other by leaving out and putting in. -/
abbrev Alike : List Char → List Char → Prop :=
  Relation.EqvGen Shortens

/-- Paths that count as one. -/
def SamePath (path other : String) : Prop :=
  Alike path.toList other.toList

theorem SamePath.refl (path : String) : SamePath path path :=
  Relation.EqvGen.refl path.toList

theorem SamePath.symm {path other : String} (h : SamePath path other) : SamePath other path :=
  Relation.EqvGen.symm _ _ h

theorem SamePath.trans {path other third : String} (h : SamePath path other)
    (hthird : SamePath other third) : SamePath path third :=
  Relation.EqvGen.trans _ _ _ h hthird

/-! ## Names along a path -/

/-- The names along the text of a path. -/
def namesOf (cs : List Char) : List String :=
  (cs.splitOn '/').map String.ofList

/-- The names along a path are those along its text. -/
theorem pathNames_eq (path : String) : pathNames path = namesOf path.toList := by
  rw [pathNames, namesOf, Text.splitOn_singleton]

/-- There is always a name, if only the empty one. -/
theorem namesOf_ne_nil (cs : List Char) : namesOf cs ≠ [] := by
  simp [namesOf, List.splitOn_ne_nil]

/-- A separator stands between names. -/
theorem namesOf_append (front back : List Char) :
    namesOf (front ++ '/' :: back) = namesOf front ++ namesOf back := by
  rw [namesOf, List.splitOn_append_cons_self, List.map_append]
  rfl

/-- Only the empty path has no name but the empty one. -/
theorem eq_nil_of_namesOf {cs : List Char} (h : namesOf cs = [""]) : cs = [] := by
  obtain ⟨piece, hpiece, hname⟩ := List.map_eq_singleton_iff.mp h
  obtain rfl : piece = [] := by simpa using hname
  have hjoin : ['/'].intercalate (cs.splitOn '/') = cs := List.intercalate_splitOn '/'
  rw [← hjoin, hpiece]
  rfl

/-- No separator is part of a name. -/
theorem separator_notMem {cs : List Char} {name : String} (h : name ∈ namesOf cs) :
    '/' ∉ name.toList := by
  have hpieces : ∀ cs : List Char, ∀ piece ∈ cs.splitOn '/', '/' ∉ piece := by
    intro cs
    induction cs with
    | nil => simp [List.splitOn_nil]
    | cons c cs ih =>
      obtain ⟨first, rest, hcs⟩ := List.exists_cons_of_ne_nil (List.splitOn_ne_nil '/' cs)
      rw [hcs] at ih
      rw [List.splitOn_cons_eq_if_modifyHead, hcs]
      obtain ⟨hfirst, hrest⟩ := List.forall_mem_cons.mp ih
      by_cases hc : c = '/'
      · simpa [hc] using ih
      · simpa [hc, Ne.symm hc, hfirst] using hrest
  obtain ⟨piece, hpiece, rfl⟩ := List.mem_map.mp h
  rw [String.toList_ofList]
  exact hpieces cs piece hpiece

/-- Names with a separator in front of each. -/
def followedBy (names : List String) : List Char :=
  names.flatMap fun name => '/' :: name.toList

/-- The text of a path is that of its names, with separators between them. -/
theorem eq_append_followedBy {cs : List Char} {first : String} {names : List String}
    (h : namesOf cs = first :: names) : cs = first.toList ++ followedBy names := by
  have hjoin : ∀ (piece : List Char) (pieces : List (List Char)),
      ['/'].intercalate (piece :: pieces) =
        piece ++ followedBy (pieces.map String.ofList) := by
    intro piece pieces
    induction pieces generalizing piece with
    | nil => simp [followedBy]
    | cons other pieces ih =>
      rw [List.intercalate_cons_cons, ih]
      simp [followedBy]
  obtain ⟨piece, pieces, hcs, rfl, rfl⟩ := List.map_eq_cons_iff.mp h
  have hwhole : ['/'].intercalate (cs.splitOn '/') = cs := List.intercalate_splitOn '/'
  rw [← hwhole, hcs, hjoin, String.toList_ofList]

/-! ## Keys of paths -/

/-- What the start of a path adds to the names that lead somewhere. -/
def startMark (names : List String) : List String :=
  if names.head? = some "." then ["."]
  else if names.head? = some "" ∧ 1 < names.length then ["/"]
  else []

/-- The names that lead somewhere. -/
def innerNames (names : List String) : List String :=
  names.filter (!isIdle ·)

/-- The key of a path is what its start adds and the names that lead somewhere. -/
theorem pathKey_eq (path : String) :
    pathKey path = startMark (pathNames path) ++ innerNames (pathNames path) := by
  simp only [pathKey, startMark, innerNames]
  split
  next hnames => simp [hnames]
  next hnames => simp [hnames]
  next hpoint hroot =>
    cases hnames : pathNames path with
    | nil => rfl
    | cons first names =>
      have hfirst : first ≠ "." := by
        rintro rfl
        exact hpoint names hnames
      have hplain : ¬(first = "" ∧ 0 < names.length) := by
        rintro ⟨rfl, hlength⟩
        obtain ⟨second, names, rfl⟩ := List.exists_cons_of_length_pos hlength
        exact hroot second names hnames
      simp [hfirst, hplain]

/-- What the start adds depends on the first names only, if there are further ones. -/
theorem startMark_append {names others more : List String} (hnames : names ≠ [])
    (hothers : others ≠ []) (hmore : more ≠ []) :
    startMark (names ++ others) = startMark (names ++ more) := by
  obtain ⟨first, names, rfl⟩ := List.exists_cons_of_ne_nil hnames
  have hothers := List.length_pos_iff.mpr hothers
  have hmore := List.length_pos_iff.mpr hmore
  have hlong : 1 < (first :: (names ++ others)).length := by simp; omega
  have hlong' : 1 < (first :: (names ++ more)).length := by simp; omega
  simp only [startMark, List.cons_append, List.head?_cons, hlong, hlong']

/-- A separator at the end adds nothing, except to the empty path. -/
theorem startMark_concat {cs : List Char} (h : cs ≠ []) :
    startMark (namesOf cs ++ [""]) = startMark (namesOf cs) := by
  obtain ⟨first, names, hnames⟩ := List.exists_cons_of_ne_nil (namesOf_ne_nil cs)
  have hplain : first = "" → 0 < names.length := by
    rintro rfl
    rw [List.length_pos_iff]
    rintro rfl
    exact h (eq_nil_of_namesOf hnames)
  by_cases hfirst : first = ""
  · simp [startMark, hnames, hfirst, hplain hfirst]
  · simp [startMark, hnames, hfirst]

/-- Leaving something out keeps the key. -/
theorem Shortens.names_eq {cs ds : List Char} (h : Shortens cs ds) :
    startMark (namesOf cs) = startMark (namesOf ds) ∧
      innerNames (namesOf cs) = innerNames (namesOf ds) := by
  have hpoint : namesOf ['.'] = ["."] := by decide
  have hempty : namesOf [] = [""] := by decide
  cases h with
  | separator front back =>
    rw [namesOf_append, namesOf_append, ← List.nil_append ('/' :: back), namesOf_append, hempty]
    exact ⟨startMark_append (namesOf_ne_nil _) (by simp) (namesOf_ne_nil _),
      by simp [innerNames, isIdle]⟩
  | point front back =>
    rw [namesOf_append, namesOf_append, ← List.singleton_append (l := '/' :: back),
      namesOf_append, hpoint]
    exact ⟨startMark_append (namesOf_ne_nil _) (by simp) (namesOf_ne_nil _),
      by simp [innerNames, isIdle]⟩
  | lastPoint front =>
    rw [namesOf_append, namesOf_append, hpoint, hempty]
    exact ⟨startMark_append (namesOf_ne_nil _) (by simp) (by simp), by simp [innerNames, isIdle]⟩
  | lastSeparator hne =>
    rw [namesOf_append, hempty]
    exact ⟨startMark_concat hne, by simp [innerNames, isIdle]⟩

/-- So does leaving out and putting in. -/
theorem Alike.names_eq {cs ds : List Char} (h : Alike cs ds) :
    startMark (namesOf cs) = startMark (namesOf ds) ∧
      innerNames (namesOf cs) = innerNames (namesOf ds) := by
  induction h with
  | rel cs ds h => exact h.names_eq
  | refl cs => exact ⟨rfl, rfl⟩
  | symm cs ds _ ih => exact ⟨ih.1.symm, ih.2.symm⟩
  | trans cs ds es _ _ ih ih' => exact ⟨ih.1.trans ih'.1, ih.2.trans ih'.2⟩

/-! ## The shortest path with a key -/

/-- Behind something, the names that lead nowhere can be left out. -/
theorem alike_followedBy {front : List Char} (h : front ≠ []) (names : List String) :
    Alike (front ++ followedBy names) (front ++ followedBy (innerNames names)) := by
  induction names generalizing front with
  | nil => exact .refl _
  | cons name names ih =>
    by_cases hidle : isIdle name
    · have hinner : innerNames (name :: names) = innerNames names := by simp [innerNames, hidle]
      rw [hinner]
      refine .trans _ _ _ ?_ (ih h)
      simp only [isIdle, Bool.or_eq_true, beq_iff_eq] at hidle
      cases names with
      | nil =>
        rcases hidle with rfl | rfl
        · simpa [followedBy] using Relation.EqvGen.rel _ _ (Shortens.lastSeparator h)
        · simpa [followedBy] using Relation.EqvGen.trans _ _ _ (.rel _ _ (Shortens.lastPoint front))
            (.rel _ _ (Shortens.lastSeparator h))
      | cons other names =>
        rcases hidle with rfl | rfl
        · exact .rel _ _ (Shortens.separator front _)
        · exact .rel _ _ (Shortens.point front _)
    · have hinner : innerNames (name :: names) = name :: innerNames names := by
        simp [innerNames, hidle]
      have hnonempty : front ++ '/' :: name.toList ≠ [] := by simp
      have hnext := ih hnonempty
      rw [hinner]
      simpa [followedBy] using hnext

/-- Names with separators between them. -/
def joined : List String → List Char
  | [] => []
  | first :: names => first.toList ++ followedBy names

/-- Behind a separator at the start, the names that lead nowhere can be left out too. -/
theorem alike_cons_joined {names : List String} (h : names ≠ []) :
    Alike (followedBy names) ('/' :: joined (innerNames names)) := by
  induction names with
  | nil => exact absurd rfl h
  | cons name names ih =>
    by_cases hidle : isIdle name
    · have hinner : innerNames (name :: names) = innerNames names := by simp [innerNames, hidle]
      rw [hinner]
      simp only [isIdle, Bool.or_eq_true, beq_iff_eq] at hidle
      cases names with
      | nil =>
        rcases hidle with rfl | rfl
        · exact .refl _
        · exact .rel _ _ (Shortens.lastPoint [])
      | cons other names =>
        refine .trans _ _ _ ?_ (ih (by simp))
        rcases hidle with rfl | rfl
        · exact .rel _ _ (Shortens.separator [] _)
        · exact .rel _ _ (Shortens.point [] _)
    · have hinner : innerNames (name :: names) = name :: innerNames names := by
        simp [innerNames, hidle]
      have hrest := alike_followedBy (List.cons_ne_nil '/' name.toList) names
      rw [hinner]
      simpa [followedBy, joined] using hrest

/-- The shortest path with a key. -/
def shortest (key : List String) : List Char :=
  if key.head? = some "/" then '/' :: joined key.tail else joined key

/-- Every path comes from the shortest one with its key. -/
theorem alike_shortest (path : String) : Alike path.toList (shortest (pathKey path)) := by
  obtain ⟨first, names, hnames⟩ := List.exists_cons_of_ne_nil (namesOf_ne_nil path.toList)
  rw [pathKey_eq, pathNames_eq, hnames, eq_append_followedBy hnames]
  by_cases hpoint : first = "."
  · subst hpoint
    have hkey : startMark ("." :: names) ++ innerNames ("." :: names) =
        "." :: innerNames names := rfl
    rw [hkey]
    exact alike_followedBy (by decide) names
  by_cases hroot : first = ""
  · subst hroot
    cases names with
    | nil => exact .refl _
    | cons second names =>
      have hkey : startMark ("" :: second :: names) ++ innerNames ("" :: second :: names) =
          "/" :: innerNames (second :: names) := by simp [startMark, innerNames, isIdle]
      rw [hkey]
      exact alike_cons_joined (by simp)
  · have hfront : first.toList ≠ [] := by simpa using hroot
    have hslash : first ≠ "/" := by
      rintro rfl
      exact separator_notMem (hnames ▸ List.mem_cons_self) (by decide)
    have hkey : startMark (first :: names) ++ innerNames (first :: names) =
        first :: innerNames names := by simp [startMark, innerNames, isIdle, hpoint, hroot]
    have hform : shortest (first :: innerNames names) =
        first.toList ++ followedBy (innerNames names) := by simp [shortest, joined, hslash]
    rw [hkey, hform]
    exact alike_followedBy hfront names

/-- Tables of two paths are kept under the same names exactly when the paths count as one. -/
theorem pathKey_eq_iff {path other : String} :
    pathKey path = pathKey other ↔ SamePath path other := by
  constructor
  · intro h
    refine Relation.EqvGen.trans _ _ _ (alike_shortest path) ?_
    rw [h]
    exact .symm _ _ (alike_shortest other)
  · intro h
    obtain ⟨hmark, hinner⟩ := Alike.names_eq h
    rw [pathKey_eq, pathKey_eq, pathNames_eq, pathNames_eq, hmark, hinner]

instance (path other : String) : Decidable (SamePath path other) :=
  decidable_of_iff _ pathKey_eq_iff

example : SamePath "//srv/./rates.json/." "/srv/rates.json" ∧ ¬SamePath "./t.json" "t.json" := by
  decide +kernel

end Reshape
