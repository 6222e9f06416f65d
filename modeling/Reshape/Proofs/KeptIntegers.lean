import Reshape.Proofs.CatalogCalls
import Reshape.Proofs.RenderedValues
import Reshape.Proofs.WideIntegers

/-!
# Operations that have nothing to do for an integer

Turning an integer into a number, rounding it, taking the size of one that is not negative and
adding it to nothing else leave an integer of 64 bits with a sign as it is.  An integer that needs
all 64 bits is seen as its nearest binary64 number, and all these operations give that number.  It
is not an integer any more, and its text is another one.

Main results:

- Theorem `Number.quantity_of_wide`: how an integer is seen that needs all 64 bits.
- Definition `Idle`: the operations.
- Theorem `Idle.compute_value`: each of them gives an integer as it is seen.
- Theorem `compact_ofQuantity_iff`: when the text stays the same.
- Theorem `idle_integers`: what they give, in every registry that has them.
- Theorem `idle_integers_lost`: an integer that becomes another value.
-/

namespace Reshape

/-! ## Rounded numbers -/

namespace Binary64

variable {n : Int} {x : Binary64}

/-- The nearest number of a wide integer is whole, so it is not rounded down. -/
theorem floor_of_wide (h : IsWide64 n) (hx : Extended.ofInt n = .finite x) :
    x.floor = roundHalfEven n.natAbs 2048 * 2048 := by
  rw [floor, (Extended.units_of_wide h hx).2, cast_unitsPerOne]
  exact Int.mul_fdiv_cancel _ (pow_pos two_pos _).ne'

/-- It is not rounded up, either. -/
theorem ceiling_of_wide (h : IsWide64 n) (hx : Extended.ofInt n = .finite x) :
    x.ceiling = roundHalfEven n.natAbs 2048 * 2048 := by
  rw [ceiling, (Extended.units_of_wide h hx).2, cast_unitsPerOne, ← neg_mul,
    Int.mul_fdiv_cancel _ (pow_pos two_pos _).ne', neg_neg]

/-- The nearest number of a wide integer does not have 64 bits with a sign. -/
theorem not_isSigned64_round (h : IsWide64 n) :
    isSigned64 (roundHalfEven n.natAbs 2048 * 2048) = false := by
  have hround := div_le_roundHalfEven n.natAbs 2048
  have hlow := h.1
  exact isSigned64_eq_false (by omega)

/-- A number that is not negative is the nearest one of its units. -/
theorem Extended.ofUnits_units (hx : x.negative = false) : ofUnits false x.units = .finite x := by
  have hunits : x.units = x.magnitude := by simp [units, hx]
  have hsign : (if x.units = 0 then false else decide (x.units < 0)) = x.negative := by
    rw [hunits, hx]
    split <;> simp
  rw [ofUnits, hsign, hunits, Int.natAbs_natCast, ofQuotient_eq_finite_iff Nat.one_pos,
    Nat.cast_one, div_one]
  exact ⟨rfl, x.nearestSize_magnitude⟩

end Binary64

/-! ## Integers as they are seen -/

/-- A wide integer is seen as its nearest number. -/
theorem Number.quantity_of_wide {n : Int} (h : IsWide64 n) :
    (integer n).quantity = .real (.ofInt n) := by
  rw [quantity, isSigned64_eq_false h.1, if_neg Bool.false_ne_true]

namespace Quantity

variable {n : Int} (hn : (Number.integer n).Valid)

include hn

/-- An integer that is not negative has its own size. -/
theorem abs_integer (h : 0 ≤ n) :
    (Number.integer n).quantity.abs = (Number.integer n).quantity := by
  by_cases hsigned : isSigned64 n
  · have habs : (n.natAbs : ℤ) = n := Int.natAbs_of_nonneg h
    rw [Number.quantity_integer hsigned, abs, habs, if_pos hsigned]
  · obtain ⟨x, hx⟩ := Binary64.Extended.exists_of_wide (hn.wide hsigned)
    have hpositive := (Binary64.Extended.units_of_wide (hn.wide hsigned) hx).1
    rw [Number.quantity_of_wide (hn.wide hsigned), abs, hx, Binary64.Extended.abs, Binary64.abs,
      ← hpositive]

/-- An integer stays as it is seen when it is rounded by a function that keeps whole numbers. -/
theorem rounded_integer {f : Binary64 → Int}
    (hf : ∀ x, IsWide64 n → Binary64.Extended.ofInt n = .finite x →
      f x = Binary64.roundHalfEven n.natAbs 2048 * 2048) :
    (Number.integer n).quantity.rounded f = (Number.integer n).quantity := by
  by_cases hsigned : isSigned64 n
  · rw [Number.quantity_integer hsigned, rounded]
    nofun
  · have hwide := hn.wide hsigned
    obtain ⟨x, hx⟩ := Binary64.Extended.exists_of_wide hwide
    rw [Number.quantity_of_wide hwide, hx, rounded, hf x hwide hx,
      Binary64.not_isSigned64_round hwide, if_neg Bool.false_ne_true]

/-- An integer stays as it is seen when it is added to zero. -/
theorem zero_add_integer :
    (exact 0).add (Number.integer n).quantity = (Number.integer n).quantity := by
  by_cases hsigned : isSigned64 n
  · have hsum : isSigned64 (0 + n) := by rwa [zero_add]
    rw [Number.quantity_integer hsigned, add, combine_exact hsum, zero_add]
  · have hwide := hn.wide hsigned
    obtain ⟨x, hx⟩ := Binary64.Extended.exists_of_wide hwide
    have hzero : Binary64.Extended.ofInt 0 = .finite (.zero false) := by decide
    have hunits : (Binary64.zero false).units = 0 := rfl
    rw [Number.quantity_of_wide hwide, hx, add, combine, toExtended, toExtended, hzero,
      Binary64.Extended.add, hunits, zero_add,
      (Binary64.Extended.units_of_wide hwide hx).1, Bool.and_false,
      Binary64.Extended.ofUnits_units (Binary64.Extended.units_of_wide hwide hx).1]
    rintro k l - ⟨⟩

end Quantity

open Json

/-! ## Operations -/

/-- The operations that have nothing to do for an integer. -/
inductive Idle
  | toNumber
  | floor
  | ceil
  | abs
  | sum

namespace Idle

/-- The name of an operation. -/
def name : Idle → String
  | toNumber => "toNumber"
  | floor => "floor"
  | ceil => "ceil"
  | abs => "abs"
  | sum => "sum"

/-- The value on which an operation has nothing to do for an integer: the integer, or an array of
nothing else. -/
def value : Idle → Int → Json
  | sum, n => .array [ofInt n]
  | _, n => ofInt n

/-- The integers for which an operation has nothing to do. -/
def Applies : Idle → Int → Prop
  | abs, n => 0 ≤ n
  | _, _ => True

/-- What an operation computes from a value. -/
def compute : Idle → Json → Json
  | toNumber => fun v => v.toNumber?.getD .null
  | floor => ofNumber fun q => .ofQuantity (q.rounded Binary64.floor)
  | ceil => ofNumber fun q => .ofQuantity (q.rounded Binary64.ceiling)
  | abs => ofNumber fun q => .ofQuantity q.abs
  | sum => ofItems sum?

/-- Whether an operation propagates null. -/
def propagates : Idle → Bool
  | toNumber => false
  | _ => true

/-- The entries of the operations are in the catalog. -/
theorem entry_mem (op : Idle) : ⟨op.name, op.propagates, .alone op.compute⟩ ∈ Catalog.entries := by
  unfold Catalog.entries
  cases op with
  | toNumber => simp [Catalog.coercions, Catalog.Entry.direct, name, propagates, compute]
  | floor | ceil | abs => simp [Catalog.functions, Catalog.Entry.maybe, name, propagates, compute]
  | sum => simp [Catalog.sequences, Catalog.Entry.maybe, name, propagates, compute]

/-- An operation gives an integer as it is seen. -/
theorem compute_value (op : Idle) {n : Int} (hn : (Number.integer n).Valid) (h : op.Applies n) :
    op.compute (op.value n) = ofQuantity (Number.integer n).quantity := by
  cases op with
  | toNumber => rfl
  | floor =>
    exact congrArg ofQuantity (Quantity.rounded_integer hn fun x => Binary64.floor_of_wide)
  | ceil =>
    exact congrArg ofQuantity (Quantity.rounded_integer hn fun x => Binary64.ceiling_of_wide)
  | abs => exact congrArg ofQuantity (Quantity.abs_integer hn h)
  | sum => exact congrArg ofQuantity (Quantity.zero_add_integer hn)

end Idle

/-- A wide integer becomes its nearest number. -/
theorem exists_ofQuantity_of_wide {n : Int} (h : IsWide64 n) :
    ∃ x, Binary64.IsNearest n x ∧ ofQuantity (Number.integer n).quantity = .number (.float x) := by
  obtain ⟨x, hx⟩ := Binary64.Extended.exists_of_wide h
  refine ⟨x, Binary64.Extended.isNearest_of_ofInt hx, ?_⟩
  rw [Number.quantity_of_wide h, hx]
  rfl

/-- What an integer becomes is a valid number again. -/
theorem exists_ofQuantity_integer {n : Int} (hn : (Number.integer n).Valid) :
    ∃ x : Number, x.Valid ∧ ofQuantity (Number.integer n).quantity = .number x := by
  by_cases hsigned : isSigned64 n
  · refine ⟨.integer n, hn, ?_⟩
    rw [Number.quantity_integer hsigned]
    rfl
  · obtain ⟨x, -, hfloat⟩ := exists_ofQuantity_of_wide (hn.wide hsigned)
    exact ⟨.float x, trivial, hfloat⟩

/-- Only an integer of 64 bits with a sign is kept. -/
theorem ofQuantity_integer_iff {n : Int} (hn : (Number.integer n).Valid) :
    ofQuantity (Number.integer n).quantity = ofInt n ↔ isSigned64 n := by
  constructor
  · intro h
    by_contra hsigned
    obtain ⟨x, -, hfloat⟩ := exists_ofQuantity_of_wide (hn.wide hsigned)
    rw [hfloat] at h
    cases h
  · intro hsigned
    rw [Number.quantity_integer hsigned]
    rfl

/-- An integer that is not kept has another text afterwards. -/
theorem compact_ofQuantity_iff {n : Int} (hn : (Number.integer n).Valid) :
    (ofQuantity (Number.integer n).quantity).compact = (ofInt n).compact ↔ isSigned64 n := by
  rw [← ofQuantity_integer_iff hn]
  obtain ⟨x, hvalid, hx⟩ := exists_ofQuantity_integer hn
  rw [hx]
  refine ⟨fun h => ?_, congrArg compact⟩
  have hrender : (number x).render = (ofInt n).render := String.ofList_injective h
  exact Literal.eq_of_render_eq (v := .number x) hvalid hn hrender

/-! ## Calls -/

/-- The names of the operations, and of the one that gives the text of a value. -/
def idleNames : Set String :=
  Set.range Idle.name ∪ {"toString"}

section Calls

variable {r : Registry} (hr : Registry.AgreeOn idleNames .catalog r)

include hr

/-- An operation gives an integer as it is seen. -/
theorem applyOperation_idle (op : Idle) {n : Int} (hn : (Number.integer n).Valid)
    (h : op.Applies n) (location : String) :
    applyOperation r (op.value n) op.name [] location =
      pure (ofQuantity (Number.integer n).quantity) := by
  have hne : op.value n ≠ .null := by cases op <;> nofun
  rw [hr.applyOperation_alone op.entry_mem (.inl (Set.mem_range_self op)) hne,
    op.compute_value hn h]

/-- The text of a value that is neither null nor a string is its written form. -/
theorem applyOperation_toString {v : Json} (hnull : v ≠ .null) (hstring : v.string? = none)
    (location : String) : applyOperation r v "toString" [] location = pure (.string v.compact) := by
  have hmem : .direct "toString" (.alone fun v => (v.toText?.map .string).getD .null) ∈
      Catalog.entries := by
    simp [Catalog.entries, Catalog.coercions]
  rw [hr.applyOperation_alone hmem (by simp [idleNames]) hnull]
  cases v with
  | null => contradiction
  | string s => cases hstring
  | bool | number | array | object => rfl

end Calls

/-- Each operation always gives a value: the integer itself when it has 64 bits with a sign, and
otherwise the nearest binary64 number, which is never the integer.  The text of an integer that has
been turned into a number is the text of the integer in the same cases only. -/
theorem idle_integers {r : Registry} (hr : Registry.AgreeOn idleNames .catalog r)
    (location : String) {n : Int} (hn : (Number.integer n).Valid) :
    (∀ op : Idle, op.Applies n →
      (isSigned64 n →
        applyOperation r (op.value n) op.name [] location = pure (ofInt n)) ∧
      (¬isSigned64 n → ∃ x, Binary64.IsNearest n x ∧
        applyOperation r (op.value n) op.name [] location = pure (.number (.float x))) ∧
      (applyOperation r (op.value n) op.name [] location = pure (ofInt n) ↔ isSigned64 n)) ∧
    applyOperation r (ofInt n) "toString" [] location = pure (.string (ofInt n).compact) ∧
    ((do applyOperation r (← applyOperation r (ofInt n) "toNumber" [] location) "toString" []
          location) = applyOperation r (ofInt n) "toString" [] location ↔ isSigned64 n) := by
  have htext := applyOperation_toString hr (v := ofInt n) nofun rfl location
  refine ⟨fun op h => ?_, htext, ?_⟩
  · rw [applyOperation_idle hr op hn h]
    refine ⟨fun hsigned => ?_, fun hsigned => ?_, ?_⟩
    · rw [(ofQuantity_integer_iff hn).mpr hsigned]
    · obtain ⟨x, hnearest, hfloat⟩ := exists_ofQuantity_of_wide (hn.wide hsigned)
      exact ⟨x, hnearest, by rw [hfloat]⟩
    · rw [← ofQuantity_integer_iff hn]
      exact ⟨Run.pure_inj, congrArg pure⟩
  · have hnumber : applyOperation r (ofInt n) "toNumber" [] location =
        pure (ofQuantity (Number.integer n).quantity) :=
      applyOperation_idle hr .toNumber hn trivial location
    obtain ⟨x, -, hx⟩ := exists_ofQuantity_integer hn
    have htext' := applyOperation_toString hr (v := .number x) nofun rfl location
    rw [hnumber, pure_bind, htext, hx, htext', ← compact_ofQuantity_iff hn, hx]
    exact ⟨fun h => Json.string.inj (Run.pure_inj h), fun h => by rw [h]⟩

/-- The operations of the catalog are also in the standard registry. -/
theorem agreeOn_idleNames : Registry.AgreeOn idleNames .catalog .standard := by
  apply Registry.agreeOn_standard
  rintro (⟨op, hname⟩ | hname)
  · cases op <;> exact absurd hname (by decide)
  · simp at hname

/-- The greatest integer of 64 bits with a sign is kept, and the greatest one without a sign is
not. -/
theorem idle_integers_limits :
    Registry.AgreeOn idleNames .catalog .standard ∧
    (Number.integer 9223372036854775807).Valid ∧ (Number.integer 18446744073709551615).Valid ∧
    (∀ op : Idle, op.Applies 9223372036854775807 ∧
      applyOperation .standard (op.value 9223372036854775807) op.name [] ".out" =
        pure (ofInt 9223372036854775807)) ∧
    ∃ x, Binary64.IsNearest (18446744073709551615 : Int) x ∧
      applyOperation .standard (.array [ofInt 18446744073709551615]) "sum" [] ".out" =
        pure (.number (.float x)) := by
  have hsigned : (Number.integer 9223372036854775807).Valid := by decide
  have hunsigned : (Number.integer 18446744073709551615).Valid := by decide
  have happlies : ∀ op : Idle, op.Applies 9223372036854775807 := by
    rintro (_ | _ | _ | _ | _) <;> simp [Idle.Applies]
  obtain ⟨hkept, -⟩ := idle_integers agreeOn_idleNames ".out" hsigned
  obtain ⟨hseen, -⟩ := idle_integers agreeOn_idleNames ".out" hunsigned
  exact ⟨agreeOn_idleNames, hsigned, hunsigned,
    fun op => ⟨happlies op, (hkept op (happlies op)).1 (by decide)⟩,
    (hseen .sum trivial).2.1 (by decide)⟩

/-- The integer `9223372036854775808` becomes a binary64 number of the same size, whatever the
operation is. -/
theorem idle_integers_lost :
    (∀ op : Idle, op.Applies 9223372036854775808 ∧
      applyOperation .standard (op.value 9223372036854775808) op.name [] "" =
        pure (.number (.float ⟨false, 4503599627370496, 1085, by decide, by decide,
          by decide⟩))) ∧
    ¬∀ n, (Number.integer n).Valid → ∀ op : Idle, op.Applies n →
      applyOperation .standard (op.value n) op.name [] "" = pure (ofInt n) := by
  have happlies : ∀ op : Idle, op.Applies 9223372036854775808 := by
    rintro (_ | _ | _ | _ | _) <;> simp [Idle.Applies]
  have hidle := fun op : Idle =>
    applyOperation_idle agreeOn_idleNames op (by decide) (happlies op) ""
  have hseen : ofQuantity (Number.integer 9223372036854775808).quantity =
      .number (.float ⟨false, 4503599627370496, 1085, by decide, by decide, by decide⟩) := by
    decide +kernel
  rw [hseen] at hidle
  refine ⟨fun op => ⟨happlies op, hidle op⟩, fun hkept => ?_⟩
  have hinteger := hkept 9223372036854775808 (by decide) .floor trivial
  exact absurd (Run.pure_inj ((hidle .floor).symm.trans hinteger)) nofun

end Reshape
