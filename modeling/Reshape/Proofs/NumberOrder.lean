import Reshape.Proofs.RoundedIntegers

/-!
# The order of numbers

Numbers are compared as quantities.  Integers of 64 bits with a sign are told apart exactly,
but everything else is told apart by its nearest binary64 number.  So three numbers may
clash: two of them are different integers, and the third is equal to both.

Apart from clashes the order of numbers is that of a line.  Rounding to the nearest number
keeps the order, so it does not matter how two of three numbers are compared, unless all
three share their nearest number.

Main results:

- Definition `Chained`: when the third of three orders follows from the first two.
- Definition `Quantity.Clash`: three numbers of which one is equal to two different ones.
- Theorem `Quantity.chained`: the order of three numbers that do not clash.
- Theorem `Quantity.clash_iff`: equality is not transitive exactly where numbers clash.
-/

namespace Reshape

/-! ## Chains of orders -/

/-- Of three orders the third follows from the first two: it is the first one that is not
equality, as long as the first two go upwards. -/
def Chained (first second whole : Option Ordering) : Prop :=
  ∀ o₁ o₂ o₃, first = some o₁ → second = some o₂ → whole = some o₃ → o₁.isLE → o₂.isLE →
    o₃ = o₁.then o₂

/-- The orders of three elements of a total order are chained. -/
theorem chained_of_transOrd {α : Type} [Ord α] [Std.TransOrd α] (a b c : α) :
    Chained (some (compare a b)) (some (compare b c)) (some (compare a c)) := by
  rintro o₁ o₂ o₃ ⟨⟩ ⟨⟩ ⟨⟩ hab hbc
  cases hcompare : compare a b with
  | lt => exact Std.TransCmp.lt_of_lt_of_isLE hcompare hbc
  | eq => exact Std.TransCmp.congr_left hcompare
  | gt => simp [hcompare] at hab

/-- There is nothing to follow from where the first two are not ordered. -/
theorem Chained.of_none_left {second whole : Option Ordering} : Chained none second whole :=
  nofun

/-- There is nothing to follow from where the last two are not ordered. -/
theorem Chained.of_none_right {first whole : Option Ordering} : Chained first none whole :=
  nofun

/-- Of two orders that go upwards the second counts when it is strict. -/
theorem then_eq_of_ne {first second : Ordering} (h : first.isLE) (h' : second.isLE)
    (hne : second ≠ .eq) : first.then second = second := by
  cases first <;> cases second <;> first | rfl | contradiction

section Rounding

variable {a b u v w : Int} (hle : a ≤ b → u ≤ v) (hge : b ≤ a → v ≤ u)
  (hne : u = v → v = w → a = b)

include hle hge hne

/-- Of two integers and a third number, the integers are compared with each other and their
roundings with the number.  The number is the last of the three. -/
theorem chained_of_rounded_last :
    Chained (some (compare a b)) (some (compare v w)) (some (compare u w)) := by
  rintro o₁ o₂ o₃ ⟨⟩ ⟨⟩ ⟨⟩ hab hvw
  rw [Int.isLE_compare] at hab hvw
  have huv := hle hab
  rcases hab.eq_or_lt with heq | hlt
  · have huv' : u = v := le_antisymm huv (hge heq.ge)
    rw [Std.compare_eq_iff_eq.mpr heq, huv', Ordering.eq_then]
  · have huw : u < w := by
      by_contra hwu
      exact hlt.ne (hne (by omega) (by omega))
    rw [Std.compare_eq_lt.mpr hlt, Std.compare_eq_lt.mpr huw, Ordering.lt_then]

/-- The number is the first of the three. -/
theorem chained_of_rounded_first :
    Chained (some (compare w u)) (some (compare a b)) (some (compare w v)) := by
  rintro o₁ o₂ o₃ ⟨⟩ ⟨⟩ ⟨⟩ hwu hab
  rw [Int.isLE_compare] at hwu hab
  have huv := hle hab
  rcases hab.eq_or_lt with heq | hlt
  · have huv' : u = v := le_antisymm huv (hge heq.ge)
    rw [Std.compare_eq_iff_eq.mpr heq, huv', Ordering.then_eq]
  · have hwv : w < v := by
      by_contra hvw
      exact hlt.ne (hne (by omega) (by omega))
    rcases hwu.eq_or_lt with heq' | hlt'
    · rw [Std.compare_eq_iff_eq.mpr heq', Std.compare_eq_lt.mpr hlt, Std.compare_eq_lt.mpr hwv,
        Ordering.eq_then]
    · rw [Std.compare_eq_lt.mpr hlt', Std.compare_eq_lt.mpr hwv, Ordering.lt_then]

/-- The number is between the two. -/
theorem chained_of_rounded_middle :
    Chained (some (compare u w)) (some (compare w v)) (some (compare a b)) := by
  rintro o₁ o₂ o₃ ⟨⟩ ⟨⟩ ⟨⟩ huw hwv
  rw [Int.isLE_compare] at huw hwv
  rcases lt_trichotomy a b with hlt | heq | hgt
  · have hne' : ¬(u = w ∧ w = v) := fun h => hlt.ne (hne (h.1.trans h.2) h.2.symm)
    rw [Std.compare_eq_lt.mpr hlt]
    rcases huw.eq_or_lt with heq | huw
    · rw [Std.compare_eq_iff_eq.mpr heq, Std.compare_eq_lt.mpr (by omega), Ordering.eq_then]
    · rw [Std.compare_eq_lt.mpr huw, Ordering.lt_then]
  · have huv := hle heq.le
    have hvu := hge heq.ge
    rw [Std.compare_eq_iff_eq.mpr heq, Std.compare_eq_iff_eq.mpr (show u = w by omega),
      Std.compare_eq_iff_eq.mpr (show w = v by omega), Ordering.eq_then]
  · have hvu := hge hgt.le
    exact absurd (hne (by omega) (by omega)) hgt.ne'

end Rounding

/-! ## Numbers -/

/-- The order of binary64 numbers and infinities the other way round. -/
theorem Binary64.Extended.compare?_swap (x y : Binary64.Extended) :
    y.compare? x = (x.compare? y).map Ordering.swap := by
  cases x with
  | nan => cases y <;> rfl
  | finite a =>
    cases y with
    | finite b => exact congrArg some (Int.compare_swap a.units b.units).symm
    | infinite t => cases t <;> rfl
    | nan => rfl
  | infinite s =>
    cases y with
    | finite b => cases s <;> rfl
    | infinite t => cases s <;> cases t <;> rfl
    | nan => rfl

namespace Quantity

/-- The units of the nearest binary64 number, if that is finite. -/
def units (q : Quantity) : Int :=
  match q.toExtended with
  | .finite x => x.units
  | _ => 0

/-- The nearest binary64 number is finite. -/
def IsFinite (q : Quantity) : Prop :=
  ∃ x, q.toExtended = .finite x

/-- Three quantities clash when they share their nearest binary64 number and two of them
are different integers, while the third is not seen as an integer. -/
def Clash (p q r : Quantity) : Prop :=
  (p.units = q.units ∧ q.units = r.units) ∧
    match p, q, r with
    | exact m, exact n, real _ => m ≠ n
    | exact m, real _, exact n => m ≠ n
    | real _, exact m, exact n => m ≠ n
    | _, _, _ => False

instance (p q r : Quantity) : Decidable (Clash p q r) :=
  match p, q, r with
  | exact _, exact _, real _ => inferInstanceAs (Decidable (_ ∧ _ ≠ _))
  | exact _, real _, exact _ => inferInstanceAs (Decidable (_ ∧ _ ≠ _))
  | real _, exact _, exact _ => inferInstanceAs (Decidable (_ ∧ _ ≠ _))
  | exact _, exact _, exact _ | exact _, real _, real _ | real _, exact _, real _
  | real _, real _, _ => inferInstanceAs (Decidable (_ ∧ False))

/-- The units of a quantity are those of its nearest number. -/
theorem units_eq {q : Quantity} {x : Binary64} (h : q.toExtended = .finite x) :
    q.units = x.units := by
  rw [units, h]

/-- Nearest numbers are compared by their units. -/
theorem toExtended_compare? {p q : Quantity} (hp : p.IsFinite) (hq : q.IsFinite) :
    p.toExtended.compare? q.toExtended = some (compare p.units q.units) := by
  rcases hp with ⟨x, hx⟩
  rcases hq with ⟨y, hy⟩
  have hcompare : Binary64.Extended.compare? (.finite x) (.finite y) =
      some (compare x.units y.units) := by rw [Binary64.Extended.compare?]
  rw [hx, hy, hcompare, units_eq hx, units_eq hy]

/-- A quantity that is no integer is compared by units. -/
theorem compare?_real_left {x : Binary64.Extended} {q : Quantity} (hx : IsFinite (real x))
    (hq : q.IsFinite) : (real x).compare? q = some (compare (real x).units q.units) := by
  rw [compare?, toExtended_compare? hx hq]
  rintro m n ⟨⟩

/-- A quantity is compared by units with one that is no integer. -/
theorem compare?_real_right {p : Quantity} {y : Binary64.Extended} (hp : p.IsFinite)
    (hy : IsFinite (real y)) : p.compare? (real y) = some (compare p.units (real y).units) := by
  rw [compare?, toExtended_compare? hp hy]
  rintro m n - ⟨⟩

/-- A greater integer does not have fewer units. -/
theorem units_mono {m n : Int} (hm : IsFinite (exact m)) (hn : IsFinite (exact n)) (h : m ≤ n) :
    units (exact m) ≤ units (exact n) := by
  rcases hm with ⟨x, hx⟩
  rcases hn with ⟨y, hy⟩
  rw [units_eq hx, units_eq hy]
  exact Binary64.Extended.units_le_of_le h hx hy

/-- The orders of three quantities that do not clash are chained. -/
theorem chained {p q r : Quantity} (hp : p.IsFinite) (hq : q.IsFinite) (hr : r.IsFinite)
    (h : ¬Clash p q r) : Chained (p.compare? q) (q.compare? r) (p.compare? r) := by
  cases p with
  | exact m =>
    cases q with
    | exact n =>
      cases r with
      | exact k => exact chained_of_transOrd m n k
      | real z =>
        rw [compare?_real_right hq hr, compare?_real_right hp hr]
        exact chained_of_rounded_last (units_mono hp hq) (units_mono hq hp) fun hmn hn =>
          not_not.mp fun hne => h ⟨⟨hmn, hn⟩, hne⟩
    | real y =>
      rw [compare?_real_right hp hq, compare?_real_left hq hr]
      cases r with
      | exact k =>
        exact chained_of_rounded_middle (units_mono hp hr) (units_mono hr hp) fun hmk hk =>
          not_not.mp fun hne => h ⟨⟨hmk.trans hk, hk.symm⟩, hne⟩
      | real z =>
        rw [compare?_real_right hp hr]
        exact chained_of_transOrd _ _ _
  | real x =>
    rw [compare?_real_left hp hq, compare?_real_left hp hr]
    cases q with
    | exact n =>
      cases r with
      | exact k =>
        exact chained_of_rounded_first (units_mono hq hr) (units_mono hr hq) fun hnk hk =>
          not_not.mp fun hne => h ⟨⟨(hnk.trans hk).symm, hnk⟩, hne⟩
      | real z =>
        rw [compare?_real_right hq hr]
        exact chained_of_transOrd _ _ _
    | real y =>
      rw [compare?_real_left hq hr]
      exact chained_of_transOrd _ _ _

/-- Finite quantities are ordered. -/
theorem exists_compare? {p q : Quantity} (hp : p.IsFinite) (hq : q.IsFinite) :
    ∃ order, p.compare? q = some order := by
  cases p with
  | exact m =>
    cases q with
    | exact n => exact ⟨_, rfl⟩
    | real y => exact ⟨_, compare?_real_right hp hq⟩
  | real x => exact ⟨_, compare?_real_left hp hq⟩

/-! ## Equal numbers -/

/-- Quantities are equal when that is their order. -/
theorem equals_iff {p q : Quantity} : p.equals q ↔ p.compare? q = some .eq := by
  cases p with
  | exact m =>
    cases q with
    | exact n => simp [equals, compare?]
    | real y => exact beq_iff_eq
  | real x => exact beq_iff_eq

/-- A finite quantity is equal to itself. -/
theorem equals_refl {q : Quantity} (h : q.IsFinite) : q.equals q := by
  rw [equals_iff]
  cases q with
  | exact n => simp [compare?]
  | real x => rw [compare?_real_left h h, Std.compare_self]

/-- The order of quantities the other way round. -/
theorem compare?_swap (p q : Quantity) : q.compare? p = (p.compare? q).map Ordering.swap := by
  cases p with
  | exact m =>
    cases q with
    | exact n => exact congrArg some (Int.compare_swap m n).symm
    | real y => exact (exact m).toExtended.compare?_swap y
  | real x =>
    cases q with
    | exact n => exact x.compare?_swap (exact n).toExtended
    | real y => exact x.compare?_swap y

/-- Equality of quantities is symmetric. -/
theorem equals_comm {p q : Quantity} (hp : p.IsFinite) (hq : q.IsFinite) :
    p.equals q = q.equals p := by
  rw [Bool.eq_iff_iff, equals_iff, equals_iff, compare?_swap p q]
  rcases exists_compare? hp hq with ⟨order, horder⟩
  rw [horder]
  cases order <;> simp

/-- Equality of quantities is transitive where they do not clash. -/
theorem equals_trans {p q r : Quantity} (hp : p.IsFinite) (hq : q.IsFinite) (hr : r.IsFinite)
    (h : ¬Clash p q r) (hpq : p.equals q) (hqr : q.equals r) : p.equals r := by
  rw [equals_iff] at *
  rcases exists_compare? hp hr with ⟨order, horder⟩
  rw [horder, chained hp hq hr h _ _ _ hpq hqr horder rfl rfl]
  rfl

/-- A quantity is equal to one that is no integer when they have equally many units. -/
theorem equals_real_right {p : Quantity} {y : Binary64.Extended} (hp : p.IsFinite)
    (hy : IsFinite (real y)) : p.equals (real y) ↔ p.units = (real y).units := by
  rw [equals_iff, compare?_real_right hp hy, Option.some.injEq, Std.compare_eq_iff_eq]

/-- A quantity that is no integer is equal to one of equally many units. -/
theorem equals_real_left {x : Binary64.Extended} {q : Quantity} (hx : IsFinite (real x))
    (hq : q.IsFinite) : (real x).equals q ↔ (real x).units = q.units := by
  rw [equals_iff, compare?_real_left hx hq, Option.some.injEq, Std.compare_eq_iff_eq]

/-- Integers are equal when they are the same. -/
theorem equals_exact {m n : Int} : (exact m).equals (exact n) ↔ m = n :=
  beq_iff_eq

/-- It does not matter with which of three quantities to begin. -/
theorem Clash.rotate {p q r : Quantity} (h : Clash p q r) : Clash q r p := by
  rcases h with ⟨⟨hpq, hqr⟩, hne⟩
  refine ⟨⟨hqr, hqr.symm.trans hpq.symm⟩, ?_⟩
  cases p <;> cases q <;> cases r <;> first | exact hne | exact hne.symm

/-- Three quantities clash exactly when one of them is equal to both others, but these are
not equal. -/
theorem clash_iff {p q r : Quantity} (hp : p.IsFinite) (hq : q.IsFinite) (hr : r.IsFinite) :
    Clash p q r ↔ (p.equals q ∧ q.equals r ∧ ¬p.equals r) ∨
      (q.equals r ∧ r.equals p ∧ ¬q.equals p) ∨ (r.equals p ∧ p.equals q ∧ ¬r.equals q) := by
  constructor
  · rintro ⟨⟨hpq, hqr⟩, hne⟩
    cases p with
    | exact m =>
      cases q with
      | exact n =>
        cases r with
        | exact k => cases hne
        | real z =>
          exact .inr (.inl ⟨(equals_real_right hq hr).mpr hqr,
            (equals_real_left hr hp).mpr (hpq.trans hqr).symm,
            fun h => hne (equals_exact.mp h).symm⟩)
      | real y =>
        cases r with
        | exact k =>
          exact .inl ⟨(equals_real_right hp hq).mpr hpq, (equals_real_left hq hr).mpr hqr,
            fun h => hne (equals_exact.mp h)⟩
        | real z => cases hne
    | real x =>
      cases q with
      | exact n =>
        cases r with
        | exact k =>
          exact .inr (.inr ⟨(equals_real_right hr hp).mpr (hpq.trans hqr).symm,
            (equals_real_left hp hq).mpr hpq, fun h => hne (equals_exact.mp h).symm⟩)
        | real z => cases hne
      | real y => cases r <;> cases hne
  · rintro (⟨h, h', hne⟩ | ⟨h, h', hne⟩ | ⟨h, h', hne⟩) <;> by_contra hfree
    · exact hne (equals_trans hp hq hr hfree h h')
    · exact hne (equals_trans hq hr hp (fun hclash => hfree hclash.rotate.rotate) h h')
    · exact hne (equals_trans hr hp hq (fun hclash => hfree hclash.rotate) h h')

end Quantity

/-- A valid number is seen as a finite quantity. -/
theorem Number.Valid.isFinite {n : Number} (h : n.Valid) : n.quantity.IsFinite :=
  h.exists_finite

end Reshape
