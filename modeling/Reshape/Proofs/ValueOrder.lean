import Mathlib.Data.List.Nodup
import Mathlib.Data.List.Perm.Subperm
import Reshape.Json.Order
import Reshape.Proofs.NumberOrder
import Reshape.Proofs.ValueParts

/-!
# The order of values

Equality by meaning and the order of values are defined together by recursion, and they
come down to the order of strings, of truth values and of numbers.  Of these only numbers
may clash.  Apart from clashes the order is consistent: equality is an equivalence, and what
is below something below a third value is below that one, wherever all three are ordered.

Main results:

- Definition `Json.ClashFree`: no numbers clash, one from each of three values.
- Theorems `Json.equals_refl`, `Json.equals_symm`: equality is reflexive and symmetric.
- Theorem `Json.equals_trans`: equality is transitive where no numbers clash.
- Theorem `Json.compare?_chained`: so is the order.
- Theorem `Json.comparison_consistent`: equality and order together.
-/

namespace Reshape

namespace Json

/-! ## Numbers in values -/

mutual

/-- The numbers in a value as they are compared. -/
def quantities : Json → List Quantity
  | number n => [n.quantity]
  | array items => quantitiesItems items
  | object fields => quantitiesFields fields
  | _ => []

/-- The numbers in items. -/
def quantitiesItems : List Json → List Quantity
  | [] => []
  | item :: items => quantities item ++ quantitiesItems items

/-- The numbers in the values of fields. -/
def quantitiesFields : List (String × Json) → List Quantity
  | [] => []
  | (_, value) :: fields => quantities value ++ quantitiesFields fields

end

/-- The numbers in an item are among those of the items. -/
theorem mem_quantitiesItems {item : Json} {items : List Json} (h : item ∈ items) {q : Quantity}
    (hq : q ∈ item.quantities) : q ∈ quantitiesItems items := by
  induction items with
  | nil => cases h
  | cons first items ih =>
    rw [quantitiesItems, List.mem_append]
    rcases List.mem_cons.mp h with rfl | h
    · exact .inl hq
    · exact .inr (ih h)

/-- The numbers in the value of a field are among those of the fields. -/
theorem mem_quantitiesFields {field : String × Json} {fields : List (String × Json)}
    (h : field ∈ fields) {q : Quantity} (hq : q ∈ field.2.quantities) :
    q ∈ quantitiesFields fields := by
  induction fields with
  | nil => cases h
  | cons first fields ih =>
    rcases first with ⟨name, value⟩
    rw [quantitiesFields, List.mem_append]
    rcases List.mem_cons.mp h with rfl | h
    · exact .inl hq
    · exact .inr (ih h)

/-- No numbers clash, one from each of three values. -/
def ClashFree (a b c : Json) : Prop :=
  ∀ p ∈ a.quantities, ∀ q ∈ b.quantities, ∀ r ∈ c.quantities, ¬Quantity.Clash p q r

instance (a b c : Json) : Decidable (ClashFree a b c) :=
  inferInstanceAs (Decidable (∀ p ∈ a.quantities, ∀ q ∈ b.quantities, ∀ r ∈ c.quantities,
    ¬Quantity.Clash p q r))

/-- Three numbers do not clash. -/
theorem ClashFree.of_numbers {m n k : Number} (h : ClashFree (number m) (number n) (number k)) :
    ¬Quantity.Clash m.quantity n.quantity k.quantity := by
  simpa [ClashFree, quantities] using h

/-- No numbers clash, one from each of three items. -/
theorem ClashFree.of_items {xs ys zs : List Json} (h : ClashFree (array xs) (array ys) (array zs))
    {x y z : Json} (hx : x ∈ xs) (hy : y ∈ ys) (hz : z ∈ zs) : ClashFree x y z :=
  fun p hp q hq r hr => h p (mem_quantitiesItems hx hp) q (mem_quantitiesItems hy hq) r
    (mem_quantitiesItems hz hr)

/-- No numbers clash, one from each of the values of three fields. -/
theorem ClashFree.of_fields {xs ys zs : Fields Json}
    (h : ClashFree (object xs) (object ys) (object zs)) {x y z : String × Json} (hx : x ∈ xs)
    (hy : y ∈ ys) (hz : z ∈ zs) : ClashFree x.2 y.2 z.2 :=
  fun p hp q hq r hr => h p (mem_quantitiesFields hx hp) q (mem_quantitiesFields hy hq) r
    (mem_quantitiesFields hz hr)

/-! ## Equality by meaning -/

section Items

variable {xs ys zs : List Json}

/-- Items are equal to themselves when each of them is. -/
theorem equalsItems_refl (h : ∀ x ∈ xs, x.equals x) : equalsItems xs xs := by
  induction xs with
  | nil => rfl
  | cons x xs ih =>
    rw [List.forall_mem_cons] at h
    rw [equalsItems, h.1, ih h.2, Bool.and_self]

/-- Equality of items is symmetric when that of each two of them is. -/
theorem equalsItems_symm (h : ∀ x ∈ xs, ∀ y ∈ ys, x.equals y → y.equals x)
    (hxy : equalsItems xs ys) : equalsItems ys xs := by
  induction xs generalizing ys with
  | nil =>
    cases ys with
    | nil => rfl
    | cons => cases hxy
  | cons x xs ih =>
    cases ys with
    | nil => cases hxy
    | cons y ys =>
      rw [equalsItems, Bool.and_eq_true] at hxy ⊢
      exact ⟨h x List.mem_cons_self y List.mem_cons_self hxy.1, ih (fun x hx y hy =>
        h x (List.mem_cons_of_mem _ hx) y (List.mem_cons_of_mem _ hy)) hxy.2⟩

/-- Equality of items is transitive when that of each three of them is. -/
theorem equalsItems_trans
    (h : ∀ x ∈ xs, ∀ y ∈ ys, ∀ z ∈ zs, x.equals y → y.equals z → x.equals z)
    (hxy : equalsItems xs ys) (hyz : equalsItems ys zs) : equalsItems xs zs := by
  induction xs generalizing ys zs with
  | nil =>
    cases ys with
    | nil => exact hyz
    | cons => cases hxy
  | cons x xs ih =>
    cases ys with
    | nil => cases hxy
    | cons y ys =>
      cases zs with
      | nil => cases hyz
      | cons z zs =>
        rw [equalsItems, Bool.and_eq_true] at hxy hyz ⊢
        exact ⟨h x List.mem_cons_self y List.mem_cons_self z List.mem_cons_self hxy.1 hyz.1,
          ih (fun x hx y hy z hz => h x (List.mem_cons_of_mem _ hx) y (List.mem_cons_of_mem _ hy)
            z (List.mem_cons_of_mem _ hz)) hxy.2 hyz.2⟩

end Items

section Fields

variable {xs ys zs : Fields Json}

/-- Each field is equal to the one that is found under its name. -/
theorem equalsFields_iff :
    equalsFields xs ys ↔
      ∀ field ∈ xs, ∃ y, Fields.get? field.1 ys = some y ∧ field.2.equals y := by
  induction xs with
  | nil => simp [equalsFields]
  | cons field xs ih =>
    rcases field with ⟨name, x⟩
    rw [equalsFields, Bool.and_eq_true, ih, List.forall_mem_cons]
    cases Fields.get? name ys <;> simp

/-- Objects are equal when they have equally many fields and each field of the one is equal
to that of its name of the other. -/
theorem equals_object_iff :
    (object xs).equals (object ys) ↔ xs.length = ys.length ∧
      ∀ field ∈ xs, ∃ y, Fields.get? field.1 ys = some y ∧ field.2.equals y := by
  rw [equals, Bool.and_eq_true, beq_iff_eq, equalsFields_iff]

/-- When each name of some fields is a name of equally many others, there are no more
names among these. -/
theorem names_subset_of_equals (hx : Fields.Sorted xs) (h : (object xs).equals (object ys)) :
    Fields.names ys ⊆ Fields.names xs := by
  rw [equals_object_iff] at h
  have hsubset : Fields.names xs ⊆ Fields.names ys := by
    rintro name hname
    rcases List.mem_map.mp hname with ⟨field, hfield, rfl⟩
    rcases h.2 field hfield with ⟨y, hy, -⟩
    exact List.mem_map.mpr ⟨_, Fields.mem_of_get? hy, rfl⟩
  have hlength : (Fields.names ys).length ≤ (Fields.names xs).length := by
    rw [Fields.names, Fields.names, List.length_map, List.length_map, h.1]
  exact ((List.subperm_of_subset hx.nodup_names hsubset).perm_of_length_le hlength).symm.subset

/-- Equality of objects is symmetric when that of the values of their fields is. -/
theorem equals_object_symm (hx : Fields.Sorted xs) (hy : Fields.Sorted ys)
    (h : ∀ x ∈ xs, ∀ y ∈ ys, x.2.equals y.2 → y.2.equals x.2)
    (hxy : (object xs).equals (object ys)) : (object ys).equals (object xs) := by
  have hnames := names_subset_of_equals hx hxy
  rw [equals_object_iff] at hxy ⊢
  refine ⟨hxy.1.symm, fun field hfield => ?_⟩
  have hmem := hnames (List.mem_map_of_mem (f := Prod.fst) hfield)
  rcases List.mem_map.mp hmem with ⟨other, hother, hname⟩
  rcases hxy.2 other hother with ⟨y, hget, heq⟩
  rw [hname, hy.get?_of_mem hfield, Option.some.injEq] at hget
  exact ⟨other.2, hname ▸ hx.get?_of_mem hother, h other hother field hfield (hget ▸ heq)⟩

/-- Equality of objects is transitive when that of the values of their fields is. -/
theorem equals_object_trans
    (h : ∀ x ∈ xs, ∀ y ∈ ys, ∀ z ∈ zs, x.2.equals y.2 → y.2.equals z.2 → x.2.equals z.2)
    (hxy : (object xs).equals (object ys)) (hyz : (object ys).equals (object zs)) :
    (object xs).equals (object zs) := by
  rw [equals_object_iff] at hxy hyz ⊢
  refine ⟨hxy.1.trans hyz.1, fun field hfield => ?_⟩
  rcases hxy.2 field hfield with ⟨y, hy, heq⟩
  rcases hyz.2 _ (Fields.mem_of_get? hy) with ⟨z, hz, heq'⟩
  exact ⟨z, hz, h field hfield _ (Fields.mem_of_get? hy) _ (Fields.mem_of_get? hz) heq heq'⟩

end Fields

/-- Every valid value is equal to itself. -/
theorem equals_refl {v : Json} (h : v.Valid) : v.equals v := by
  induction v using Json.kinds_induction with
  | null => rfl
  | bool b => simp [equals]
  | string s => simp [equals]
  | number n => exact Quantity.equals_refl (Number.Valid.isFinite h)
  | array items ih =>
    exact equalsItems_refl fun item hitem => ih item hitem (valid_of_mem_items h hitem)
  | object fields ih =>
    exact equals_object_iff.mpr ⟨rfl, fun field hfield => ⟨field.2, h.1.get?_of_mem hfield,
      ih field hfield (valid_of_mem_fields h.2 hfield)⟩⟩

/-- Equality of valid values is symmetric. -/
theorem equals_symm {a b : Json} (ha : a.Valid) (hb : b.Valid) (h : a.equals b) :
    b.equals a := by
  induction a using Json.kinds_induction generalizing b with
  | null => cases b <;> simp_all [equals]
  | bool => cases b <;> simp_all [equals]
  | string => cases b <;> simp_all [equals]
  | number m =>
    cases b with
    | number n =>
      rw [equals] at h ⊢
      rw [Quantity.equals_comm (Number.Valid.isFinite hb) (Number.Valid.isFinite ha), h]
    | null | bool | string | array | object => simp [equals] at h
  | array xs ih =>
    cases b with
    | array ys =>
      exact equalsItems_symm (fun x hx y hy =>
        ih x hx (valid_of_mem_items ha hx) (valid_of_mem_items hb hy)) h
    | null | bool | string | number | object => simp [equals] at h
  | object xs ih =>
    cases b with
    | object ys =>
      exact equals_object_symm ha.1 hb.1 (fun x hx y hy =>
        ih x hx (valid_of_mem_fields ha.2 hx) (valid_of_mem_fields hb.2 hy)) h
    | null | bool | string | number | array => simp [equals] at h

/-- Equality of valid values is transitive where no numbers clash. -/
theorem equals_trans {a b c : Json} (ha : a.Valid) (hb : b.Valid) (hc : c.Valid)
    (h : ClashFree a b c) (hab : a.equals b) (hbc : b.equals c) : a.equals c := by
  induction a using Json.kinds_induction generalizing b c with
  | null =>
    cases b with
    | null => exact hbc
    | bool | number | string | array | object => simp [equals] at hab
  | bool p =>
    cases b with
    | bool q =>
      obtain rfl : p = q := by simpa [equals] using hab
      exact hbc
    | null | number | string | array | object => simp [equals] at hab
  | string s =>
    cases b with
    | string t =>
      obtain rfl : s = t := by simpa [equals] using hab
      exact hbc
    | null | bool | number | array | object => simp [equals] at hab
  | number p =>
    cases b with
    | number q =>
      cases c with
      | number r =>
        exact Quantity.equals_trans (Number.Valid.isFinite ha) (Number.Valid.isFinite hb)
          (Number.Valid.isFinite hc) h.of_numbers hab hbc
      | null | bool | string | array | object => simp [equals] at hbc
    | null | bool | string | array | object => simp [equals] at hab
  | array xs ih =>
    cases b with
    | array ys =>
      cases c with
      | array zs =>
        exact equalsItems_trans (fun x hx y hy z hz => ih x hx (valid_of_mem_items ha hx)
          (valid_of_mem_items hb hy) (valid_of_mem_items hc hz) (h.of_items hx hy hz)) hab hbc
      | null | bool | string | number | object => simp [equals] at hbc
    | null | bool | string | number | object => simp [equals] at hab
  | object xs ih =>
    cases b with
    | object ys =>
      cases c with
      | object zs =>
        exact equals_object_trans (fun x hx y hy z hz => ih x hx (valid_of_mem_fields ha.2 hx)
          (valid_of_mem_fields hb.2 hy) (valid_of_mem_fields hc.2 hz) (h.of_fields hx hy hz))
          hab hbc
      | null | bool | string | number | array => simp [equals] at hbc
    | null | bool | string | number | array => simp [equals] at hab

/-! ## Order -/

/-- The orders of truth values are chained. -/
theorem compareBool_chained (p q r : Bool) :
    Chained (some (compareBool p q)) (some (compareBool q r)) (some (compareBool p r)) := by
  rintro o₁ o₂ o₃ ⟨⟩ ⟨⟩ ⟨⟩
  cases p <;> cases q <;> cases r <;> decide

/-- Arrays that start with an item each are ordered by these items, unless they are equal. -/
theorem compareItems?_cons_eq_some {x y : Json} {xs ys : List Json} {order : Ordering} :
    compareItems? (x :: xs) (y :: ys) = some order ↔
      ∃ first, x.compare? y = some first ∧
        (first = .eq → compareItems? xs ys = some order) ∧ (first ≠ .eq → order = first) := by
  rw [compareItems?]
  cases x.compare? y with
  | none => simp
  | some first => cases first <;> simp [eq_comm]

/-- Where the order of arrays goes upwards, so does that of their first items. -/
theorem isLE_of_first {first order : Ordering} (h : first ≠ .eq → order = first)
    (hle : order.isLE) : first.isLE := by
  cases first with
  | gt =>
    rw [h nofun] at hle
    exact hle
  | lt | eq => rfl

/-- The orders of items are chained when those of each three of them are. -/
theorem compareItems?_chained {xs ys zs : List Json}
    (h : ∀ x ∈ xs, ∀ y ∈ ys, ∀ z ∈ zs, Chained (x.compare? y) (y.compare? z) (x.compare? z)) :
    Chained (compareItems? xs ys) (compareItems? ys zs) (compareItems? xs zs) := by
  induction xs generalizing ys zs with
  | nil =>
    rintro o₁ o₂ o₃ hxy hyz hxz - hle₂
    cases ys with
    | nil =>
      cases hxy
      exact Option.some.inj (hxz.symm.trans hyz)
    | cons y ys =>
      cases hxy
      cases zs with
      | nil =>
        cases hyz
        cases hle₂
      | cons z zs => exact (Option.some.inj hxz).symm
  | cons x xs ih =>
    rintro o₁ o₂ o₃ hxy hyz hxz hle₁ hle₂
    cases ys with
    | nil =>
      cases hxy
      cases hle₁
    | cons y ys =>
      cases zs with
      | nil =>
        cases hyz
        cases hle₂
      | cons z zs =>
        rcases compareItems?_cons_eq_some.mp hxy with ⟨first₁, hx, hrest₁, hfirst₁⟩
        rcases compareItems?_cons_eq_some.mp hyz with ⟨first₂, hy, hrest₂, hfirst₂⟩
        rcases compareItems?_cons_eq_some.mp hxz with ⟨first₃, hz, hrest₃, hfirst₃⟩
        have hle := isLE_of_first hfirst₁ hle₁
        have hfirst : first₃ = first₁.then first₂ := h x List.mem_cons_self y List.mem_cons_self z
          List.mem_cons_self _ _ _ hx hy hz hle (isLE_of_first hfirst₂ hle₂)
        cases first₁ with
        | gt => cases hle
        | lt =>
          rw [Ordering.lt_then] at hfirst
          rw [hfirst₁ nofun, hfirst₃ (hfirst ▸ nofun), hfirst, Ordering.lt_then]
        | eq =>
          rw [Ordering.eq_then] at hfirst
          subst hfirst
          by_cases heq : first₃ = .eq
          · have htail := ih fun x hx y hy z hz => h x (List.mem_cons_of_mem _ hx) y
              (List.mem_cons_of_mem _ hy) z (List.mem_cons_of_mem _ hz)
            exact htail _ _ _ (hrest₁ rfl) (hrest₂ heq) (hrest₃ heq) hle₁ hle₂
          · rw [hfirst₂ heq] at hle₂ ⊢
            rw [hfirst₃ heq, then_eq_of_ne hle₁ hle₂ heq]

/-- The orders of three valid values are chained where no numbers clash. -/
theorem compare?_chained {a b c : Json} (ha : a.Valid) (hb : b.Valid) (hc : c.Valid)
    (h : ClashFree a b c) : Chained (a.compare? b) (b.compare? c) (a.compare? c) := by
  induction a using Json.kinds_induction generalizing b c with
  | null => exact Chained.of_none_left
  | object => exact Chained.of_none_left
  | bool p =>
    cases b with
    | bool q =>
      cases c with
      | bool r => exact compareBool_chained p q r
      | null | number | string | array | object => exact Chained.of_none_right
    | null | number | string | array | object => exact Chained.of_none_left
  | string s =>
    cases b with
    | string t =>
      cases c with
      | string u => exact chained_of_transOrd s t u
      | null | bool | number | array | object => exact Chained.of_none_right
    | null | bool | number | array | object => exact Chained.of_none_left
  | number p =>
    cases b with
    | number q =>
      cases c with
      | number r =>
        exact Quantity.chained (Number.Valid.isFinite ha) (Number.Valid.isFinite hb)
          (Number.Valid.isFinite hc) h.of_numbers
      | null | bool | string | array | object => exact Chained.of_none_right
    | null | bool | string | array | object => exact Chained.of_none_left
  | array xs ih =>
    cases b with
    | array ys =>
      cases c with
      | array zs =>
        exact compareItems?_chained fun x hx y hy z hz => ih x hx (valid_of_mem_items ha hx)
          (valid_of_mem_items hb hy) (valid_of_mem_items hc hz) (h.of_items hx hy hz)
      | null | bool | string | number | object => exact Chained.of_none_right
    | null | bool | string | number | object => exact Chained.of_none_left

/-! ## Consistency -/

/-- Equality is reflexive and symmetric.  Where no numbers clash, it is transitive, and so
is the order: what is not above something that is not above a third value is not above
that one, and it is below it as soon as one of the two steps goes strictly upwards.  Where
three numbers do clash, one of them is equal to both others, but these are not equal. -/
theorem comparison_consistent {a b c : Json} (ha : a.Valid) (hb : b.Valid) (hc : c.Valid) :
    a.equals a ∧ a.equals b = b.equals a ∧
      (ClashFree a b c → (a.equals b → b.equals c → a.equals c) ∧
        ∀ o₁ o₂ o₃, a.compare? b = some o₁ → b.compare? c = some o₂ → a.compare? c = some o₃ →
          o₁ ≠ .gt → o₂ ≠ .gt → o₃ ≠ .gt ∧ (o₁ = .lt ∨ o₂ = .lt → o₃ = .lt)) ∧
      ∀ m n k, a = number m → b = number n → c = number k → ¬ClashFree a b c →
        ∃ p q r, [p, q, r].Perm [a, b, c] ∧ p.equals q ∧ q.equals r ∧ ¬p.equals r := by
  refine ⟨equals_refl ha, ?_, fun h => ⟨equals_trans ha hb hc h, ?_⟩, ?_⟩
  · exact Bool.eq_iff_iff.mpr ⟨equals_symm ha hb, equals_symm hb ha⟩
  · intro o₁ o₂ o₃ hab hbc hac hne₁ hne₂
    have hthen := compare?_chained ha hb hc h o₁ o₂ o₃ hab hbc hac
      (Ordering.isLE_iff_ne_gt.mpr hne₁) (Ordering.isLE_iff_ne_gt.mpr hne₂)
    cases o₁ <;> cases o₂ <;> simp_all
  · rintro m n k rfl rfl rfl hclash
    have hclash : Quantity.Clash m.quantity n.quantity k.quantity := by
      simpa [ClashFree, quantities] using hclash
    rcases (Quantity.clash_iff (Number.Valid.isFinite ha) (Number.Valid.isFinite hb)
      (Number.Valid.isFinite hc)).mp hclash with h | h | h
    · exact ⟨number m, number n, number k, .refl _, h⟩
    · have hperm : ([number n, number k] ++ [number m]).Perm
          ([number m] ++ [number n, number k]) := List.perm_append_comm
      exact ⟨number n, number k, number m, hperm, h⟩
    · have hperm : ([number k] ++ [number m, number n]).Perm
          ([number m, number n] ++ [number k]) := List.perm_append_comm
      exact ⟨number k, number m, number n, hperm, h⟩

/-- The arrays `[1,2.5]`, `[1.0,3]` and `[1,3,"m"]` ascend, and `9223372036854775808` is equal
to two different integers. -/
theorem comparison_consistent_rows :
    (array [.number (.integer 1), .number (.float ⟨false, 5629499534213120, 1023, by decide,
        by decide, by decide⟩)]).compare?
      (array [.number (.integer 1), .number (.integer 3), .string "m"]) = some .lt ∧
    ∃ p q r, [p, q, r].Perm [number (.integer 9223372036854775807),
        number (.integer 9223372036854775808), number (.integer 9223372036854775806)] ∧
      p.equals q ∧ q.equals r ∧ ¬p.equals r := by
  constructor
  · have hfree := (comparison_consistent
      (a := array [.number (.integer 1), .number (.float ⟨false, 5629499534213120, 1023,
        by decide, by decide, by decide⟩)])
      (b := array [.number (.float ⟨false, 4503599627370496, 1022, by decide, by decide,
        by decide⟩), .number (.integer 3)])
      (c := array [.number (.integer 1), .number (.integer 3), .string "m"])
      (by decide +kernel) (by decide +kernel) (by decide +kernel)).2.2.1 (by decide +kernel)
    have hsome : ((array [.number (.integer 1), .number (.float ⟨false, 5629499534213120, 1023,
        by decide, by decide, by decide⟩)]).compare?
        (array [.number (.integer 1), .number (.integer 3), .string "m"])).isSome := by
      decide +kernel
    rcases Option.isSome_iff_exists.mp hsome with ⟨order, horder⟩
    have hlt := hfree.2 .lt .lt order (by decide +kernel) (by decide +kernel) horder nofun nofun
    rw [horder, hlt.2 (.inl rfl)]
  · have hclash := (comparison_consistent (a := number (.integer 9223372036854775807))
      (b := number (.integer 9223372036854775808)) (c := number (.integer 9223372036854775806))
      (by decide) (by decide) (by decide)).2.2.2
    exact hclash _ _ _ rfl rfl rfl (by decide +kernel)

/-- The integers `9223372036854775807` and `9223372036854775806` clash with the greater one
`9223372036854775808`, which has too many bits for an integer with a sign and is told apart
by its nearest binary64 number: it is equal to both others, and neither equality nor the
order leads from the one to the other. -/
theorem comparison_clash_at_limit :
    (¬∀ a b c : Json, a.Valid → b.Valid → c.Valid → a.equals b → b.equals c → a.equals c) ∧
      ¬∀ a b c : Json, a.Valid → b.Valid → c.Valid → ∀ o₁ o₂ o₃, a.compare? b = some o₁ →
        b.compare? c = some o₂ → a.compare? c = some o₃ → o₁ ≠ .gt → o₂ ≠ .gt →
          o₃ ≠ .gt ∧ (o₁ = .lt ∨ o₂ = .lt → o₃ = .lt) := by
  constructor
  · intro htrans
    have hequals := htrans (.number (.integer 9223372036854775807))
      (.number (.integer 9223372036854775808)) (.number (.integer 9223372036854775806))
      (by decide) (by decide) (by decide) (by decide +kernel) (by decide +kernel)
    have hne : ¬(number (.integer 9223372036854775807)).equals
        (number (.integer 9223372036854775806)) := by decide +kernel
    exact hne hequals
  · intro hle
    exact (hle (.number (.integer 9223372036854775807)) (.number (.integer 9223372036854775808))
      (.number (.integer 9223372036854775806)) (by decide) (by decide) (by decide) .eq .eq .gt
      (by decide +kernel) (by decide +kernel) (by decide +kernel) nofun nofun).1 rfl

end Json

end Reshape
