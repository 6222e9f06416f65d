import Reshape.Proofs.SequenceEnds

/-!
# Repeated strings and arrays

A product does not depend on the order of its factors: that of two numbers because the rounded
product of two binary64 numbers does not, and a string or an array is repeated by a number on either
side.  Repeating gives that many copies in a row as long as they come to at most `2 ^ 24` bytes or
items, and null beyond; counts are integers of 64 bits with a sign, and those below zero give no
copies.  So a string or an array repeated by a sum of counts is the one repeated by each of them,
put together.

Sizes are multiplied as natural numbers.  A size of zero allows every count, and then the sum of two
counts may be no count any more.

Main results:

- Theorem `Json.multiply_comm`: the order of factors.
- Definition `Json.copies`: copies of a string or an array in a row.
- Theorem `Json.repeated_ofInt`: what repeating gives.
- Structure `RepeatsExactly`: how the products of one value with counts hang together.
- Theorem `repetition_exact`: they do for every string and every array.
- Theorem `repetition_beyond_counts`: counts whose sum is no count.
-/

namespace Reshape

/-! ## The order of factors -/

/-- The rounded product does not depend on the order of the factors. -/
theorem Binary64.Extended.mul_comm (x y : Extended) : x.mul y = y.mul x := by
  cases x <;> cases y <;> simp only [mul, Bool.xor_comm, Nat.mul_comm]

/-- An operation on quantities does not depend on their order when it does not on integers and on
binary64 numbers. -/
theorem Quantity.combine_comm {onIntegers : Int → Int → Int}
    {onReals : Binary64.Extended → Binary64.Extended → Binary64.Extended}
    (hintegers : ∀ m n, onIntegers m n = onIntegers n m)
    (hreals : ∀ x y, onReals x y = onReals y x) (x y : Quantity) :
    combine onIntegers onReals x y = combine onIntegers onReals y x := by
  cases x <;> cases y <;> simp only [combine, toExtended, hintegers, hreals]

namespace Json

/-- The product does not depend on the order of the factors. -/
theorem multiply_comm (v w : Json) : multiply v w = multiply w v := by
  cases v with
  | number m =>
    cases w with
    | number n =>
      have hproduct := Quantity.combine_comm Int.mul_comm Binary64.Extended.mul_comm m.quantity
        n.quantity
      simp only [multiply, computed, ofNumbers, quantity?, hproduct]
    | null | bool | string | array | object => rfl
  | null | bool | string | array | object => cases w <;> rfl

/-- A product with null is null. -/
theorem null_multiply (w : Json) : multiply null w = null := by
  cases w with
  | number n => cases hn : n.quantity <;> simp [multiply, repeated, quantity?, hn]
  | null | bool | string | array | object => rfl

/-! ## Copies in a row -/

/-- The size of an array is the number of its items, and that of a string the number of its
bytes. -/
def size : Json → Nat
  | array items => items.length
  | string s => s.utf8ByteSize
  | _ => 0

/-- Copies of an array or a string in a row. -/
def copies (n : Nat) : Json → Json
  | array items => array (List.replicate n items).flatten
  | string s => string (String.join (List.replicate n s))
  | v => v

/-- The items at all indexes are the list. -/
theorem filterMap_getElem?_range {α : Type} (xs : List α) :
    (List.range xs.length).filterMap (xs[·]?) = xs := by
  induction xs with
  | nil => rfl
  | cons x xs ih =>
    simpa [List.range_succ_eq_map, List.filterMap_map, Function.comp_def] using ih

/-- A list that starts over, up to the end of a copy, is its copies in a row. -/
theorem takeCycle_mul {α : Type} (xs : List α) (n : Nat) :
    takeCycle (xs.length * n) xs = (List.replicate n xs).flatten := by
  simp only [takeCycle, List.size_toArray, List.getElem?_toArray]
  induction n with
  | zero => rfl
  | succ n ih =>
    have hlast : (List.range xs.length).filterMap
        (fun i => xs[(xs.length * n + i) % xs.length]?) = xs := by
      refine Eq.trans (List.filterMap_congr fun i hi => ?_) (filterMap_getElem?_range xs)
      rw [Nat.mul_add_mod, Nat.mod_eq_of_lt (List.mem_range.mp hi)]
    rw [Nat.mul_succ, List.range_add, List.filterMap_append, ih, List.filterMap_map,
      List.replicate_succ', List.flatten_append, List.flatten_singleton]
    exact congrArg _ hlast

/-- A repeated text is its copies in a row. -/
theorem ofChars_repeatChars (n : Nat) (s : String) :
    ofChars (repeatChars n s.toList) = string (String.join (List.replicate n s)) := by
  have hchars : repeatChars n s.toList = (List.replicate n s.toList).flatten := by
    unfold repeatChars
    split
    next hempty => simp [List.isEmpty_iff.mp hempty]
    next => rfl
  rw [ofChars, hchars, string.injEq, ← String.toList_inj, String.toList_ofList,
    String.toList_join, List.flatMap_replicate]

/-- The bound is far below 64 bits. -/
theorem repeatedSize?_eq (size times : Nat) :
    repeatedSize? size times = if size * times ≤ 2 ^ 24 then some (size * times) else none := by
  unfold repeatedSize?
  by_cases hle : size * times ≤ 2 ^ 24
  · have hlt : size * times < 0x10000000000000000 := by omega
    rw [if_pos hle, if_pos hlt, Option.filter_eq_some_iff]
    exact ⟨rfl, decide_eq_true hle⟩
  · rw [if_neg hle, Option.filter_eq_none_iff]
    intro total htotal hmax
    obtain ⟨-, htotal⟩ := Option.ite_none_right_eq_some.mp htotal
    exact hle (Option.some.inj htotal ▸ of_decide_eq_true hmax)

/-- Copies of nothing are nothing. -/
theorem copies_empty (n : Nat) : (string "").copies n = string "" := by
  rw [copies, string.injEq, ← String.toList_inj, String.toList_join, List.flatMap_replicate]
  exact List.flatten_replicate_nil

section Copies

variable {v : Json} (hv : v.IsSequence)

include hv

/-- Copies are as large as all of them together. -/
theorem size_copies (n : Nat) : (v.copies n).size = v.size * n := by
  cases hv with
  | array items => simp [copies, size, Nat.mul_comm]
  | string s =>
    rw [copies, size, size]
    induction n with
    | zero => rfl
    | succ n ih =>
      rw [List.replicate_succ, String.join_cons, String.utf8ByteSize_append, ih, Nat.mul_succ,
        Nat.add_comm]

/-- Copies and further copies are added. -/
theorem add_copies (m n : Nat) : add (v.copies m) (v.copies n) = v.copies (m + n) := by
  cases hv with
  | array items =>
    simp only [copies, add, List.replicate_add, List.flatten_append]
  | string s =>
    simp only [copies, add, List.replicate_add, String.join_append]

/-- Copies are never null. -/
theorem copies_ne_null (n : Nat) : v.copies n ≠ null := by
  cases hv <;> exact nofun

/-- What repeating by an integer gives. -/
theorem repeated_ofInt {k : Int} (hk : isSigned64 k) :
    repeated v (ofInt k) = if v.size * k.toNat ≤ 2 ^ 24 then v.copies k.toNat else null := by
  have hcount : (ofInt k).quantity? = some (.exact k) :=
    congrArg some (Number.quantity_integer hk)
  unfold repeated
  rw [hcount]
  by_cases hle : v.size * k.toNat ≤ 2 ^ 24
  · have hsize := (repeatedSize?_eq v.size k.toNat).trans (if_pos hle)
    rw [if_pos hle]
    cases hv with
    | array items =>
      rw [size] at hsize
      simp only [hsize, copies, takeCycle_mul]
    | string s =>
      rw [size] at hsize
      simp only [hsize, copies, ofChars_repeatChars]
  · have hsize := (repeatedSize?_eq v.size k.toNat).trans (if_neg hle)
    rw [if_neg hle]
    cases hv <;> rw [size] at hsize <;> simp only [hsize]

/-- Nothing is repeated by a number that is no integer of 64 bits with a sign. -/
theorem multiply_number_eq_null {n : Number} (hn : ∀ k, isSigned64 k → n ≠ .integer k) :
    multiply v (number n) = null := by
  have hcount : ∃ x, n.quantity = .real x := by
    cases n with
    | integer k =>
      have hwide : ¬isSigned64 k := fun hk => hn k hk rfl
      exact ⟨_, if_neg hwide⟩
    | float x => exact ⟨_, rfl⟩
  obtain ⟨x, hx⟩ := hcount
  cases hv <;> simp [multiply, repeated, quantity?, hx]

/-- The product with an integer. -/
theorem multiply_ofInt {k : Int} (hk : isSigned64 k) :
    multiply v (ofInt k) = if v.size * k.toNat ≤ 2 ^ 24 then v.copies k.toNat else null := by
  rw [← repeated_ofInt hv hk]
  cases hv <;> rfl

end Copies

end Json

open Json

/-! ## Calls -/

/-- The operation `*` multiplies, also when null comes in. -/
theorem applyOperation_times {r : Registry} (hr : Registry.AgreeOn {"*"} .catalog r) (v w : Json)
    (location : String) :
    applyOperation r v "*" [w] location = pure (multiply v w) := by
  have hmem : .maybe "*" (.withOne multiply) ∈ Catalog.entries := by
    simp [Catalog.entries, Catalog.arithmetic]
  have hnull : ∀ v, multiply v .null = .null := fun v =>
    (multiply_comm v .null).trans (null_multiply v)
  exact hr.applyOperation_withOne_of_null hmem rfl null_multiply hnull v w location

/-- How the products of one value with counts hang together, where `run` runs an operation. -/
structure RepeatsExactly (run : Json → String → List Json → Run Json) (v : Json) : Prop where
  null_iff : ∀ k, isSigned64 k → (run v "*" [ofInt k] = pure .null ↔ 2 ^ 24 < v.size * k.toNat)
  copies_eq : ∀ k, isSigned64 k → v.size * k.toNat ≤ 2 ^ 24 →
    run v "*" [ofInt k] = pure (v.copies k.toNat) ∧
      (v.copies k.toNat).size = v.size * k.toNat
  add_eq : ∀ k m : Nat, isSigned64 k → isSigned64 m → isSigned64 (k + m : Nat) →
    v.size * (k + m) ≤ 2 ^ 24 → ∃ first second whole,
      run v "*" [ofInt k] = pure first ∧ run v "*" [ofInt m] = pure second ∧
      run first "+" [second] = pure whole ∧ run v "*" [ofInt (k + m : Nat)] = pure whole
  no_count : ∀ n, (∀ k, isSigned64 k → n ≠ .integer k) → run v "*" [.number n] = pure .null

/-- The names of the operations that repeat and put together. -/
def repetitionNames : Set String :=
  {"*", "+"}

section Calls

variable {r : Registry} (hr : Registry.AgreeOn repetitionNames .catalog r)

include hr

/-- The products of an array or a string with counts hang together. -/
theorem repeatsExactly {v : Json} (hv : v.IsSequence) (location : String) :
    RepeatsExactly (fun v name arguments => applyOperation r v name arguments location) v := by
  have htimes := applyOperation_times (hr.mono (by simp [repetitionNames]))
  have hplus := applyOperation_plus (hr.mono (by simp [repetitionNames]))
  have hcopies : ∀ k, isSigned64 k → v.size * k.toNat ≤ 2 ^ 24 →
      applyOperation r v "*" [ofInt k] location = pure (v.copies k.toNat) := by
    intro k hk hle
    rw [htimes, multiply_ofInt hv hk, if_pos hle]
  constructor
  · intro k hk
    constructor
    · intro hnull
      by_contra hle
      rw [hcopies k hk (not_lt.mp hle)] at hnull
      exact copies_ne_null hv _ (Run.pure_inj hnull)
    · intro hlt
      rw [htimes, multiply_ofInt hv hk, if_neg (not_le.mpr hlt)]
  · exact fun k hk hle => ⟨hcopies k hk hle, size_copies hv k.toNat⟩
  · intro k m hk hm hsum hle
    have hkle : v.size * k ≤ 2 ^ 24 := (Nat.mul_le_mul_left _ (Nat.le_add_right k m)).trans hle
    have hmle : v.size * m ≤ 2 ^ 24 := (Nat.mul_le_mul_left _ (Nat.le_add_left m k)).trans hle
    exact ⟨_, _, _, hcopies k hk hkle, hcopies m hm hmle,
      (hplus _ _ location).trans (congrArg pure (add_copies hv k m)), hcopies _ hsum hle⟩
  · intro n hn
    rw [htimes, multiply_number_eq_null hv hn]

/-- Factors may change places, whatever they are, and there is always a product.  A string or an
array repeated by an integer of 64 bits with a sign is null exactly when its size times the count
exceeds `2 ^ 24`, counts below zero being taken as zero; and otherwise it is that many copies in a
row, whose size is the product.  Within this bound counts are added by putting the copies together,
provided that their sum is such an integer.  Every other number gives null. -/
theorem repetition_exact (location : String) :
    (∀ v w, ∃ product, applyOperation r v "*" [w] location = pure product ∧
      applyOperation r w "*" [v] location = pure product) ∧
    ∀ v : Json, v.IsSequence →
      RepeatsExactly (fun v name arguments => applyOperation r v name arguments location) v := by
  have htimes := applyOperation_times (hr.mono (by simp [repetitionNames]))
  refine ⟨fun v w => ⟨multiply v w, htimes v w location, ?_⟩, fun v hv =>
    repeatsExactly hr hv location⟩
  rw [htimes, multiply_comm]

end Calls

/-- The operations of the catalog are also in the standard registry. -/
theorem agreeOn_repetitionNames : Registry.AgreeOn repetitionNames .catalog .standard :=
  Registry.agreeOn_standard (by simp [repetitionNames])

/-- A character of two bytes as often as it may be repeated, and once more, on either side of the
number. -/
theorem repetition_exact_accent :
    Registry.AgreeOn repetitionNames .catalog .standard ∧ (Json.string "é").IsSequence ∧
    isSigned64 8388608 ∧ isSigned64 8388609 ∧
    applyOperation .standard (.string "é") "*" [ofInt 8388608] ".out" =
      pure ((Json.string "é").copies 8388608) ∧
    ((Json.string "é").copies 8388608).size = 2 ^ 24 ∧
    applyOperation .standard (.string "é") "*" [ofInt 8388609] ".out" = pure .null ∧
    applyOperation .standard (ofInt 8388609) "*" [.string "é"] ".out" = pure .null := by
  have hv : (Json.string "é").IsSequence := .string "é"
  have hlast : isSigned64 8388608 := by decide
  have hbeyond : isSigned64 8388609 := by decide
  obtain ⟨hcomm, hrepeats⟩ := repetition_exact agreeOn_repetitionNames ".out"
  have h := hrepeats _ hv
  obtain ⟨hcopies, hsize⟩ := h.copies_eq 8388608 hlast (by decide)
  have hnull := (h.null_iff 8388609 hbeyond).mpr (by decide)
  obtain ⟨product, hleft, hright⟩ := hcomm (.string "é") (ofInt 8388609)
  obtain rfl : product = .null := Run.pure_inj (hleft.symm.trans hnull)
  exact ⟨agreeOn_repetitionNames, hv, hlast, hbeyond, hcopies, hsize.trans (by decide), hnull,
    hright⟩

/-- The empty string allows every count, but `2 ^ 62` and itself add up to no count. -/
theorem repetition_beyond_counts :
    isSigned64 (2 ^ 62 : Nat) ∧ (Json.string "").size * (2 ^ 62 + 2 ^ 62) ≤ 2 ^ 24 ∧
    applyOperation .standard (.string "") "*" [ofInt (2 ^ 62 : Nat)] "" = pure (.string "") ∧
    applyOperation .standard (.string "") "+" [.string ""] "" = pure (.string "") ∧
    applyOperation .standard (.string "") "*" [ofInt (2 ^ 62 + 2 ^ 62 : Nat)] "" = pure .null ∧
    ¬∀ (v : Json) (k m : Nat), v.IsSequence → isSigned64 k → isSigned64 m →
      v.size * (k + m) ≤ 2 ^ 24 → ∃ first second whole,
        applyOperation .standard v "*" [ofInt k] "" = pure first ∧
        applyOperation .standard v "*" [ofInt m] "" = pure second ∧
        applyOperation .standard first "+" [second] "" = pure whole ∧
        applyOperation .standard v "*" [ofInt (k + m : Nat)] "" = pure whole := by
  have hcount : isSigned64 (2 ^ 62 : Nat) := by decide
  have hsize : (Json.string "").size * (2 ^ 62 + 2 ^ 62) ≤ 2 ^ 24 := by decide
  have hrepeats := repeatsExactly agreeOn_repetitionNames (.string "") ""
  have hname : ({"+"} : Set String) ⊆ repetitionNames := by simp [repetitionNames]
  have hplus := applyOperation_plus (agreeOn_repetitionNames.mono hname) (.string "")
    (.string "") ""
  have hpart : applyOperation .standard (.string "") "*" [ofInt (2 ^ 62 : Nat)] "" =
      pure (.string "") := by
    rw [(hrepeats.copies_eq _ hcount (by decide)).1, copies_empty]
  have hwhole : applyOperation .standard (.string "") "*" [ofInt (2 ^ 62 + 2 ^ 62 : Nat)] "" =
      pure .null := by
    refine hrepeats.no_count _ fun k hk heq => ?_
    rw [← Number.integer.inj heq] at hk
    exact absurd hk (by decide)
  refine ⟨hcount, hsize, hpart, hplus, hwhole, fun hall => ?_⟩
  obtain ⟨first, second, whole, hfirst, hsecond, hsum, heq⟩ :=
    hall (.string "") _ _ (.string "") hcount hcount hsize
  obtain rfl := Run.pure_inj (hfirst.symm.trans hpart)
  obtain rfl := Run.pure_inj (hsecond.symm.trans hpart)
  obtain rfl := Run.pure_inj (heq.symm.trans hwhole)
  exact absurd (Run.pure_inj (hsum.symm.trans hplus)) (by decide)

end Reshape
