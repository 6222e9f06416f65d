import Reshape.Proofs.CatalogCalls
import Reshape.Proofs.Comparability

/-!
# The signs that compare values

Equality and order are computed apart from each other: equality goes through all parts of two
values, and the order stops at the first parts that differ.  Where two values can be compared,
both agree.  So the six signs are six views of one order, which is the other way round when the
values change places, and the four signs that ask for the order give null together.

Main results:

- Theorem `Json.equals_of_compare?`: values are equal when that is their order.
- Definition `Sign`: the six signs.
- Theorem `Sign.answer_of_compare?`: what a sign gives for values that can be compared.
- Structure `Sign.Consistent`: how the results of the signs hang together.
- Theorem `comparison_signs`: the results of the signs, in every registry that has them.
-/

namespace Reshape

namespace Json

/-! ## Equality and order -/

/-- Truth values are equal when that is their order. -/
theorem compareBool_beq_eq (p q : Bool) : (compareBool p q == .eq) = (p == q) := by
  cases p <;> cases q <;> rfl

/-- Items are equal when that is their order, if the same holds of each of them. -/
theorem equalsItems_of_compareItems? {xs : List Json}
    (h : ∀ x ∈ xs, ∀ (y : Json) (order : Ordering), x.compare? y = some order →
      x.equals y = (order == .eq))
    {ys : List Json} {order : Ordering} (hcompare : compareItems? xs ys = some order) :
    equalsItems xs ys = (order == .eq) := by
  induction xs generalizing ys with
  | nil =>
    cases ys with
    | nil | cons => cases hcompare; rfl
  | cons x xs ih =>
    rw [List.forall_mem_cons] at h
    cases ys with
    | nil => cases hcompare; rfl
    | cons y ys =>
      rcases compareItems?_cons_eq_some.mp hcompare with ⟨first, hfirst, hrest, hne⟩
      rw [equalsItems, h.1 y first hfirst]
      cases first with
      | eq => exact ih h.2 (hrest rfl)
      | lt | gt =>
        rw [hne (by decide)]
        rfl

/-- Values that can be compared are equal when that is their order. -/
theorem equals_of_compare? {a b : Json} {order : Ordering} (h : a.compare? b = some order) :
    a.equals b = (order == .eq) := by
  induction a using Json.kinds_induction generalizing b order with
  | null | object => cases h
  | bool p =>
    cases b with
    | bool q =>
      cases h
      exact (compareBool_beq_eq p q).symm
    | null | number | string | array | object => cases h
  | number m =>
    cases b with
    | number n =>
      rw [compare?] at h
      rw [equals, Bool.eq_iff_iff, Quantity.equals_iff, h, Option.some.injEq, beq_iff_eq]
    | null | bool | string | array | object => cases h
  | string s =>
    cases b with
    | string t =>
      cases h
      rw [equals, Bool.eq_iff_iff, beq_iff_eq, beq_iff_eq, Std.compare_eq_iff_eq]
    | null | bool | number | array | object => cases h
  | array xs ih =>
    cases b with
    | array ys => exact equalsItems_of_compareItems? (fun x hx y order => ih x hx) h
    | null | bool | number | string | object => cases h

end Json

open Json

/-! ## Signs -/

/-- The signs that compare two values. -/
inductive Sign
  | equal
  | unequal
  | less
  | atMost
  | greater
  | atLeast
deriving DecidableEq

namespace Sign

/-- The name of a sign in expressions. -/
def name : Sign → String
  | equal => "=="
  | unequal => "!="
  | less => "<"
  | atMost => "<="
  | greater => ">"
  | atLeast => ">="

/-- The orders of two values for which a sign gives true. -/
def accepts : Sign → Ordering → Bool
  | equal, order => order == .eq
  | unequal, order => order != .eq
  | less, order => order == .lt
  | atMost, order => order != .gt
  | greater, order => order == .gt
  | atLeast, order => order != .lt

/-- The signs that ask for the order. -/
def orders : List Sign :=
  [less, atMost, greater, atLeast]

/-- What a sign gives for two values other than null. -/
def answer : Sign → Json → Json → Json
  | equal, a, b => .bool (a.equals b)
  | unequal, a, b => .bool !a.equals b
  | less, a, b => ordered less.accepts a b
  | atMost, a, b => ordered atMost.accepts a b
  | greater, a, b => ordered greater.accepts a b
  | atLeast, a, b => ordered atLeast.accepts a b

/-- For values that can be compared all signs go by their order. -/
theorem answer_of_compare? {a b : Json} {order : Ordering} (h : a.compare? b = some order)
    (sign : Sign) : sign.answer a b = .bool (sign.accepts order) := by
  cases sign with
  | equal => exact congrArg Json.bool (equals_of_compare? h)
  | unequal => exact congrArg (fun p => Json.bool !p) (equals_of_compare? h)
  | less | atMost | greater | atLeast => simp [answer, ordered, h]

/-- For values that cannot be compared the signs that ask for the order give null. -/
theorem answer_of_compare?_eq_none {a b : Json} (h : a.compare? b = none) {sign : Sign}
    (hsign : sign ∈ orders) : sign.answer a b = .null := by
  simp only [orders, List.mem_cons, List.not_mem_nil, or_false] at hsign
  rcases hsign with rfl | rfl | rfl | rfl <;> simp [answer, ordered, h]

/-! ## Calls -/

/-- The entry of a sign in the catalog. -/
def entry (sign : Sign) : Catalog.Entry :=
  .maybe sign.name (.withOne sign.answer)

/-- The entries of the signs are in the catalog. -/
theorem entry_mem (sign : Sign) : sign.entry ∈ Catalog.entries := by
  have hentries : Catalog.comparisons =
      [equal, unequal, less, atMost, greater, atLeast].map entry := rfl
  have hmem : sign.entry ∈ Catalog.comparisons := by
    rw [hentries]
    exact List.mem_map_of_mem (by cases sign <;> decide)
  simp [Catalog.entries, hmem]

/-- No sign is the operation on files. -/
theorem enumFileChange_notMem_range : "enumFileChange" ∉ Set.range name := by
  rintro ⟨sign, hname⟩
  cases sign <;> exact absurd hname (by decide)

/-- A sign gives its answer for two values other than null. -/
theorem applyOperation_sign {names : Set String} {r : Registry}
    (hr : Registry.AgreeOn names .catalog r) {sign : Sign} (hname : sign.name ∈ names)
    {a b : Json} (ha : a ≠ .null) (hb : b ≠ .null) (location : String) :
    applyOperation r a sign.name [b] location = pure (sign.answer a b) :=
  hr.applyOperation_withOne sign.entry_mem hname ha hb location

/-! ## Consistency -/

/-- A sign that asks for the order gives null exactly for values that cannot be compared. -/
theorem answer_eq_null_iff {a b : Json} {sign : Sign} (hsign : sign ∈ orders) :
    sign.answer a b = .null ↔ a.compare? b = none := by
  constructor
  · intro h
    cases hcompare : a.compare? b with
    | none => rfl
    | some order =>
      rw [answer_of_compare? hcompare] at h
      cases h
  · exact fun h => answer_of_compare?_eq_none h hsign

/-- Two signs that accept opposite orders give the same when the values change places. -/
theorem answer_swap {sign other : Sign} (hsign : sign ∈ orders) (hother : other ∈ orders)
    (h : ∀ order, sign.accepts order = other.accepts order.swap) (a b : Json) :
    sign.answer a b = other.answer b a := by
  have hswap := compare?_swap a b
  cases hcompare : a.compare? b with
  | none =>
    rw [hcompare] at hswap
    rw [answer_of_compare?_eq_none hcompare hsign, answer_of_compare?_eq_none hswap hother]
  | some order =>
    rw [hcompare] at hswap
    rw [answer_of_compare? hcompare, answer_of_compare? hswap, h]

/-- Exactly one of three signs accepts an order. -/
theorem existsUnique_accepts (order : Ordering) :
    ∃! sign : Sign, sign ∈ [less, equal, greater] ∧ sign.accepts order := by
  cases order with
  | lt => exact ⟨less, by decide, by rintro (_ | _) ⟨hmem, h⟩ <;> simp_all [accepts]⟩
  | eq => exact ⟨equal, by decide, by rintro (_ | _) ⟨hmem, h⟩ <;> simp_all [accepts]⟩
  | gt => exact ⟨greater, by decide, by rintro (_ | _) ⟨hmem, h⟩ <;> simp_all [accepts]⟩

/-- What the signs give for two values hangs together.  Here `run` runs a sign on two values in
their order. -/
structure Consistent (run : Sign → Json → Json → Run Json) (a b : Json) : Prop where
  less_eq : run less a b = run greater b a
  atMost_eq : run atMost a b = run atLeast b a
  unequal_eq : ∃ p, run equal a b = pure (.bool p) ∧ run unequal a b = pure (.bool !p)
  null_iff : ∀ sign ∈ orders,
    run sign a b = pure .null ↔ ∀ other ∈ orders, run other a b = pure .null
  exists_bool : ∀ sign ∈ orders, run sign a b ≠ pure .null → ∃ p, run sign a b = pure (.bool p)
  existsUnique : (∃ sign ∈ orders, run sign a b ≠ pure .null) →
    ∃! sign, sign ∈ [less, equal, greater] ∧ run sign a b = pure (.bool true)
  atMost_iff : (∃ sign ∈ orders, run sign a b ≠ pure .null) →
    (run atMost a b = pure (.bool true) ↔
      run less a b = pure (.bool true) ∨ run equal a b = pure (.bool true))

/-- The answers of the signs hang together. -/
theorem consistent_of_answer {run : Sign → Json → Json → Run Json} {a b : Json}
    (hab : ∀ sign, run sign a b = pure (answer sign a b))
    (hba : ∀ sign, run sign b a = pure (answer sign b a)) : Consistent run a b := by
  have hnull : ∀ sign ∈ orders, run sign a b = pure .null ↔ a.compare? b = none := by
    intro sign hsign
    rw [hab, ← answer_eq_null_iff hsign]
    exact ⟨Run.pure_inj, congrArg pure⟩
  have horder : ∀ sign ∈ orders, run sign a b ≠ pure .null → ∃ order, a.compare? b = some order :=
    fun sign hsign hne => Option.ne_none_iff_exists'.mp (mt (hnull sign hsign).mpr hne)
  have htrue : ∀ {order}, a.compare? b = some order →
      ∀ sign : Sign, run sign a b = pure (.bool true) ↔ sign.accepts order := by
    intro order hcompare sign
    rw [hab, answer_of_compare? hcompare]
    exact ⟨fun h => Json.bool.inj (Run.pure_inj h), fun h => by rw [h]⟩
  have hless : less.answer a b = greater.answer b a :=
    answer_swap (by decide) (by decide) (by rintro (_ | _ | _) <;> rfl) a b
  have hatMost : atMost.answer a b = atLeast.answer b a :=
    answer_swap (by decide) (by decide) (by rintro (_ | _ | _) <;> rfl) a b
  constructor
  · rw [hab, hba, hless]
  · rw [hab, hba, hatMost]
  · exact ⟨a.equals b, hab equal, hab unequal⟩
  · intro sign hsign
    rw [hnull sign hsign]
    exact ⟨fun h other hother => (hnull other hother).mpr h, fun h =>
      (hnull sign hsign).mp (h sign hsign)⟩
  · intro sign hsign hne
    obtain ⟨order, hcompare⟩ := horder sign hsign hne
    exact ⟨sign.accepts order, by rw [hab, answer_of_compare? hcompare]⟩
  · rintro ⟨sign, hsign, hne⟩
    obtain ⟨order, hcompare⟩ := horder sign hsign hne
    simpa only [htrue hcompare] using existsUnique_accepts order
  · rintro ⟨sign, hsign, hne⟩
    obtain ⟨order, hcompare⟩ := horder sign hsign hne
    rw [htrue hcompare, htrue hcompare, htrue hcompare]
    cases order <;> decide

end Sign

/-- The order of two values is reversed when they change places, and where there is an order, it
says whether they are equal.  So the results of the six signs for two values other than null hang
together. -/
theorem comparison_signs {r : Registry} (hr : Registry.AgreeOn (Set.range Sign.name) .catalog r)
    (a b : Json) (location : String) :
    b.compare? a = (a.compare? b).map Ordering.swap ∧
    (∀ order, a.compare? b = some order → (order = .eq ↔ a.equals b)) ∧
    (a ≠ .null → b ≠ .null →
      Sign.Consistent (fun sign x y => applyOperation r x sign.name [y] location) a b) := by
  refine ⟨compare?_swap a b, ?_, ?_⟩
  · intro order hcompare
    rw [equals_of_compare? hcompare, beq_iff_eq]
  · intro ha hb
    exact Sign.consistent_of_answer
      (fun sign => Sign.applyOperation_sign hr (Set.mem_range_self sign) ha hb location)
      (fun sign => Sign.applyOperation_sign hr (Set.mem_range_self sign) hb ha location)

/-- The arrays `[1,"a"]` and `[1.0,"b",null]`. -/
def unlikeRows : Json × Json :=
  (.array [ofInt 1, .string "a"], .array [ofExtended (.ofInt 1), .string "b", .null])

/-- An integer and a binary64 number of the same size, and a null behind the items that
differ. -/
theorem comparison_signs_rows :
    Registry.AgreeOn (Set.range Sign.name) .catalog .standard ∧
    unlikeRows.1.compare? unlikeRows.2 = some .lt ∧ unlikeRows.2.compare? unlikeRows.1 = some .gt ∧
    ¬unlikeRows.1.equals unlikeRows.2 ∧
    Sign.Consistent (fun sign x y => applyOperation .standard x sign.name [y] ".out")
      unlikeRows.1 unlikeRows.2 := by
  have hr := Registry.agreeOn_standard Sign.enumFileChange_notMem_range
  have hcompare : unlikeRows.1.compare? unlikeRows.2 = some .lt := by decide +kernel
  obtain ⟨hswap, hequals, hsigns⟩ := comparison_signs hr unlikeRows.1 unlikeRows.2 ".out"
  rw [hcompare] at hswap
  exact ⟨hr, hcompare, hswap, mt (hequals .lt hcompare).mpr nofun, hsigns nofun nofun⟩

end Reshape
