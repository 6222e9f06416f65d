import Reshape.Proofs.ComparisonSigns

/-!
# Items that can be put in order

The sign `<=` leads from one value to another when the two can be compared and the first is not
greater.  Items can be put in order when any two of them can be compared and the sign is
transitive among them.  This does not hold of all items: integers and binary64 numbers may clash,
and arrays that can be compared may hold parts that cannot.

It does hold of strings, of truth values, of integers of 64 bits with a sign, and of arrays of
such items, however deep.

Main results:

- Definition `Json.AtMost`: the sign `<=` leads from one value to another.
- Theorem `Json.Comparable.equals_iff`: values are equal when it leads both ways.
- Structure `Json.Sortable`: items that can be put in order.
- Theorem `Json.Uniform.sortable`: items of one kind can be put in order.
-/

namespace Reshape

namespace Json

/-! ## At most -/

/-- The sign `<=` leads from one value to another. -/
def AtMost (a b : Json) : Prop :=
  Sign.atMost.answer a b = .bool true

instance (a b : Json) : Decidable (AtMost a b) :=
  inferInstanceAs (Decidable (_ = _))

section AtMost

variable {a b : Json}

/-- A value is at most another one when their order says so. -/
theorem atMost_iff : a.AtMost b ↔ ∃ order, a.compare? b = some order ∧ order.isLE := by
  have hmem : Sign.atMost ∈ Sign.orders := by decide
  unfold AtMost
  cases h : a.compare? b with
  | none => simp [Sign.answer_of_compare?_eq_none h hmem]
  | some order => cases order <;> simp [Sign.answer_of_compare? h, Sign.accepts]

/-- What is at most another value can be compared with it. -/
theorem AtMost.comparable (h : a.AtMost b) : a.Comparable b := by
  obtain ⟨order, horder, -⟩ := atMost_iff.mp h
  exact Option.isSome_iff_exists.mpr ⟨order, horder⟩

/-- The order of two values when they change places. -/
theorem compare?_eq_swap {order : Ordering} (h : a.compare? b = some order) :
    b.compare? a = some order.swap := by
  rw [compare?_swap a b, h, Option.map_some]

/-- A lesser value is at most the greater one. -/
theorem atMost_of_lt (h : a.compare? b = some .lt) : a.AtMost b :=
  atMost_iff.mpr ⟨.lt, h, rfl⟩

/-- A greater value is not at most the lesser one. -/
theorem not_atMost_of_lt (h : a.compare? b = some .lt) : ¬b.AtMost a := by
  intro hle
  obtain ⟨order, horder, hisLE⟩ := atMost_iff.mp hle
  rw [compare?_eq_swap h] at horder
  cases horder
  cases hisLE

/-- A value is not better than another one that is better than it. -/
theorem compare?_ne_of_better {wanted : Ordering} (hwanted : wanted ≠ .eq)
    (h : a.compare? b = some wanted) : b.compare? a ≠ some wanted := by
  rw [compare?_eq_swap h]
  cases wanted with
  | eq => contradiction
  | lt | gt => nofun

/-- Of two values that can be compared one is at most the other, or it is greater. -/
theorem Comparable.atMost_of_ne (h : a.Comparable b) (hne : b.compare? a ≠ some .lt) :
    a.AtMost b := by
  obtain ⟨order, horder⟩ := Option.isSome_iff_exists.mp h
  cases order with
  | lt | eq => exact atMost_iff.mpr ⟨_, horder, rfl⟩
  | gt => exact absurd (compare?_eq_swap horder) hne

/-- Values that can be compared are equal when each is at most the other. -/
theorem Comparable.equals_iff (h : a.Comparable b) : a.equals b ↔ a.AtMost b ∧ b.AtMost a := by
  obtain ⟨order, horder⟩ := Option.isSome_iff_exists.mp h
  have hswap := compare?_eq_swap horder
  rw [equals_of_compare? horder, atMost_iff, atMost_iff, horder, hswap]
  cases order <;> simp

end AtMost

/-! ## Items in order -/

/-- Items that can be put in order: any two can be compared, and the sign `<=` is transitive
among them. -/
structure Sortable (items : List Json) : Prop where
  comparable : items.Pairwise Comparable
  trans : ∀ a ∈ items, ∀ b ∈ items, ∀ c ∈ items, a.AtMost b → b.AtMost c → a.AtMost c

/-- Fewer items can be put in order, too. -/
theorem Sortable.of_append {front back : List Json} (h : Sortable (front ++ back)) :
    Sortable front where
  comparable := (List.pairwise_append.mp h.comparable).1
  trans a ha b hb c hc := h.trans a (List.mem_append_left back ha) b (List.mem_append_left back hb)
    c (List.mem_append_left back hc)

/-- Two different items can be compared. -/
theorem Sortable.comparable_of_ne {items : List Json} (h : Sortable items) {a b : Json}
    (ha : a ∈ items) (hb : b ∈ items) (hne : a ≠ b) : a.Comparable b :=
  h.comparable.forall ha hb hne

/-- Every item is above the lesser or below the greater one of two others. -/
theorem Sortable.lt_or_lt {items : List Json} (h : Sortable items) {a b c : Json} (ha : a ∈ items)
    (hb : b ∈ items) (hc : c ∈ items) (hlt : a.compare? c = some .lt) :
    a.compare? b = some .lt ∨ b.compare? c = some .lt := by
  by_contra hneither
  obtain ⟨hab, hbc⟩ := not_or.mp hneither
  by_cases hba : b = a
  · exact hbc (hba ▸ hlt)
  by_cases hcb : c = b
  · exact hab (hcb ▸ hlt)
  have hle : c.AtMost a := h.trans c hc b hb a ha
    ((h.comparable_of_ne hc hb hcb).atMost_of_ne hbc)
    ((h.comparable_of_ne hb ha hba).atMost_of_ne hab)
  exact not_atMost_of_lt hlt hle

/-- Items can be put in order when each of them can be compared with each, and the orders of any
three are chained. -/
theorem sortable_of_chained {items : List Json}
    (hcomparable : ∀ a ∈ items, ∀ b ∈ items, a.Comparable b)
    (hchained : ∀ a ∈ items, ∀ b ∈ items, ∀ c ∈ items,
      Chained (a.compare? b) (b.compare? c) (a.compare? c)) : Sortable items where
  comparable := List.pairwise_of_forall_mem_list hcomparable
  trans a ha b hb c hc hab hbc := by
    obtain ⟨first, hfirst, hle⟩ := atMost_iff.mp hab
    obtain ⟨second, hsecond, hle'⟩ := atMost_iff.mp hbc
    obtain ⟨whole, hwhole⟩ := Option.isSome_iff_exists.mp (hcomparable a ha c hc)
    have hthen := hchained a ha b hb c hc first second whole hfirst hsecond hwhole hle hle'
    refine atMost_iff.mpr ⟨whole, hwhole, ?_⟩
    rw [hthen]
    cases first with
    | lt => rfl
    | eq => exact hle'
    | gt => cases hle

/-! ## Items of one kind -/

/-- Items of one kind: strings, truth values, integers of 64 bits with a sign, or arrays whose
items taken together are of one kind again. -/
inductive Uniform : List Json → Prop
  | strings (texts : List String) : Uniform (texts.map string)
  | bools (values : List Bool) : Uniform (values.map bool)
  | integers {values : List Int} (h : ∀ n ∈ values, isSigned64 n) : Uniform (values.map ofInt)
  | arrays {rows : List (List Json)} (h : Uniform rows.flatten) : Uniform (rows.map array)

/-- Integers of 64 bits with a sign are compared exactly. -/
theorem compare?_ofInt {m n : Int} (hm : isSigned64 m) (hn : isSigned64 n) :
    (ofInt m).compare? (ofInt n) = some (compare m n) := by
  rw [ofInt, ofInt, compare?, Number.quantity_integer hm, Number.quantity_integer hn]
  rfl

/-- Items can be compared when each of one side can be compared with each of the other. -/
theorem isSome_compareItems? {xs ys : List Json} (h : ∀ x ∈ xs, ∀ y ∈ ys, x.Comparable y) :
    (compareItems? xs ys).isSome := by
  induction xs generalizing ys with
  | nil => cases ys <;> rfl
  | cons x xs ih =>
    cases ys with
    | nil => rfl
    | cons y ys =>
      obtain ⟨first, hfirst⟩ :=
        Option.isSome_iff_exists.mp (h x List.mem_cons_self y List.mem_cons_self)
      have hrest := ih fun x hx y hy =>
        h x (List.mem_cons_of_mem _ hx) y (List.mem_cons_of_mem _ hy)
      rw [compareItems?, hfirst, Option.bind_some]
      cases first with
      | eq => exact hrest
      | lt | gt => rfl

section Uniform

variable {items : List Json}

/-- Each two items of one kind can be compared. -/
theorem Uniform.comparable (h : Uniform items) : ∀ a ∈ items, ∀ b ∈ items, a.Comparable b := by
  induction h with
  | strings texts =>
    simp only [List.forall_mem_map]
    exact fun _ _ _ _ => rfl
  | bools values =>
    simp only [List.forall_mem_map]
    exact fun _ _ _ _ => rfl
  | integers h =>
    simp only [List.forall_mem_map]
    intro m hm n hn
    rw [Comparable, compare?_ofInt (h m hm) (h n hn), Option.isSome_some]
  | arrays h ih =>
    simp only [List.forall_mem_map]
    intro xs hxs ys hys
    exact isSome_compareItems? fun x hx y hy =>
      ih x (List.mem_flatten_of_mem hxs hx) y (List.mem_flatten_of_mem hys hy)

/-- The orders of three items of one kind are chained. -/
theorem Uniform.chained (h : Uniform items) : ∀ a ∈ items, ∀ b ∈ items, ∀ c ∈ items,
    Chained (a.compare? b) (b.compare? c) (a.compare? c) := by
  induction h with
  | strings texts =>
    simp only [List.forall_mem_map]
    intro s _ t _ u _
    exact chained_of_transOrd s t u
  | bools values =>
    simp only [List.forall_mem_map]
    intro p _ q _ r _
    exact compareBool_chained p q r
  | integers h =>
    simp only [List.forall_mem_map]
    intro m hm n hn k hk
    rw [compare?_ofInt (h m hm) (h n hn), compare?_ofInt (h n hn) (h k hk),
      compare?_ofInt (h m hm) (h k hk)]
    exact chained_of_transOrd m n k
  | arrays h ih =>
    simp only [List.forall_mem_map]
    intro xs hxs ys hys zs hzs
    exact compareItems?_chained fun x hx y hy z hz => ih x (List.mem_flatten_of_mem hxs hx) y
      (List.mem_flatten_of_mem hys hy) z (List.mem_flatten_of_mem hzs hz)

/-- Items of one kind can be put in order. -/
theorem Uniform.sortable (h : Uniform items) : Sortable items :=
  sortable_of_chained h.comparable h.chained

end Uniform

end Json

end Reshape
