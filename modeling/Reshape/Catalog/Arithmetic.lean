import Reshape.Binary64.Elementary
import Reshape.Catalog.Entry
import Reshape.Json.Order

/-!
# Numbers

The operations on numbers.  Integers of 64 bits are computed with exactly as long as
the result has 64 bits too; everything else is computed on binary64 numbers, and a
result that is not finite becomes null.  Some signs also work on strings and arrays.

Main results:

- Definitions `Quantity.power`, `Quantity.modulo?`, `Json.repeated`: the longer operations.
- Definitions `Catalog.arithmetic`, `Catalog.comparisons`, `Catalog.functions`: the entries.
-/

namespace Reshape

namespace Quantity

/-! ## Powers, remainders and rounding -/

/-- The power of an integer, if it has 64 bits.  From the 64th power on only the powers of
zero, one and minus one have. -/
def integerPower? (base : Int) (exponent : Nat) : Option Int :=
  let value :=
    if exponent < 64 then some (Int.pow base exponent)
    else if base = 0 ∨ base = 1 then some base
    else if base = -1 then some (if exponent % 2 = 0 then 1 else -1)
    else none
  value.filter isSigned64

/-- The power.  An integer exponent is used as such up to 32 bits. -/
def power : Quantity → Quantity → Quantity
  | exact m, exact n =>
    let direct? :=
      if 0 ≤ n ∧ n < 0x100000000 then integerPower? m n.toNat else none
    match direct? with
    | some value => exact value
    | none => real (.pow (.ofInt m) (.ofInt n))
  | x, y => real (.pow x.toExtended y.toExtended)

/-- The remainder with the sign of the dividend, if the quotient has 64 bits. -/
def remainder? (m n : Int) : Option Int :=
  if isSigned64 (m.tdiv n) then some (m.tmod n) else none

/-- The remainder with the sign of the divisor, if the divisor is not zero. -/
def modulo? (x y : Quantity) : Option Quantity :=
  match x, y with
  | exact m, exact n =>
    if n = 0 then
      none
    else
      match remainder? m n with
      | some rest =>
        if rest ≠ 0 ∧ decide (rest < 0) ≠ decide (n < 0) then some (exact (rest + n))
        else some (exact rest)
      | none => some (exact 0)
  | x, y =>
    let divisor := y.toExtended
    if divisor.isZero then
      none
    else
      let rest := x.toExtended.rem divisor
      let isNegative (z : Binary64.Extended) := z.compare? (.finite (.zero false)) == some .lt
      if !rest.isZero && isNegative rest != isNegative divisor then
        some (real (rest.add divisor))
      else
        some (real rest)

/-- The size of a quantity. -/
def abs : Quantity → Quantity
  | exact n => if isSigned64 n.natAbs then exact n.natAbs else real (.abs (.ofInt n))
  | real x => real x.abs

/-- A quantity rounded to a whole number, an integer if that has 64 bits. -/
def rounded (f : Binary64 → Int) : Quantity → Quantity
  | real (.finite x) => if isSigned64 (f x) then exact (f x) else real (.finite x)
  | x => x

end Quantity

namespace Json

/-- What a function makes of a number, null for other values. -/
def ofNumber (f : Quantity → Json) (v : Json) : Json :=
  (v.quantity?.map f).getD null

/-- What a function makes of two numbers, null for other values. -/
def ofNumbers (f : Quantity → Quantity → Json) (v w : Json) : Json :=
  match v.quantity?, w.quantity? with
  | some x, some y => f x y
  | _, _ => null

/-- The value of a quantity computed from two numbers. -/
def computed (f : Quantity → Quantity → Quantity) : Json → Json → Json :=
  ofNumbers fun x y => ofQuantity (f x y)

/-! ## Sequences and numbers -/

/-- The greatest number of bytes or items that repetition makes. -/
def maxRepeated : Nat :=
  0x1000000

/-- The size of what is repeated, if it has 64 bits and is not too large. -/
def repeatedSize? (size times : Nat) : Option Nat :=
  (if size * times < 0x10000000000000000 then some (size * times) else none).filter
    (· ≤ maxRepeated)

/-- The first items of a list that starts over behind its last item. -/
def takeCycle {α : Type} (total : Nat) (xs : List α) : List α :=
  let slots := xs.toArray
  (List.range total).filterMap fun i => slots[i % slots.size]?

/-- A list of characters repeated a number of times. -/
def repeatChars (times : Nat) (cs : List Char) : List Char :=
  if cs.isEmpty then [] else (List.replicate times cs).flatten

/-- A string or an array repeated an integer number of times, null when the result would
be too long. -/
def repeated (v times : Json) : Json :=
  match times.quantity? with
  | some (.exact n) =>
    match v with
    | string s =>
      match repeatedSize? s.utf8ByteSize n.toNat with
      | some _ => ofChars (repeatChars n.toNat s.toList)
      | none => null
    | array items =>
      match repeatedSize? items.length n.toNat with
      | some total => array (takeCycle total items)
      | none => null
    | _ => null
  | _ => null

/-- The sum of two numbers, or two strings or arrays one after the other. -/
def add : Json → Json → Json
  | string s, string t => string (s ++ t)
  | array xs, array ys => array (xs ++ ys)
  | v, w => computed .add v w

/-- The difference of two numbers. -/
def subtract : Json → Json → Json :=
  computed (.combine (· - ·) .sub)

/-- The product of two numbers, or a string or an array repeated. -/
def multiply : Json → Json → Json
  | number m, number n => computed (.combine (· * ·) .mul) (number m) (number n)
  | number n, v => repeated v (number n)
  | v, number n => repeated v (number n)
  | _, _ => null

/-- The quotient of two numbers, which is never an integer. -/
def divide : Json → Json → Json :=
  ofNumbers fun x y =>
    if y.isNonzero then ofExtended (x.toExtended.div y.toExtended) else null

/-- The remainder of two numbers. -/
def modulo : Json → Json → Json :=
  ofNumbers fun x y => ((x.modulo? y).map ofQuantity).getD null

/-! ## Comparison -/

/-- Whether the order of two values is accepted, null where there is none. -/
def ordered (accept : Ordering → Bool) (v w : Json) : Json :=
  ((v.compare? w).map fun order => bool (accept order)).getD null

/-! ## Functions of one number -/

/-- The value of a function on binary64 numbers. -/
def real (f : Binary64.Extended → Binary64.Extended) : Json → Json :=
  ofNumber fun x => ofExtended (f x.toExtended)

end Json

namespace Catalog

open Binary64

/-- The entries for arithmetic. -/
def arithmetic : List Entry :=
  [.maybe "+" (.withOne Json.add),
   .maybe "-" (.withOne Json.subtract),
   .maybe "*" (.withOne Json.multiply),
   .maybe "/" (.withOne Json.divide),
   .maybe "**" (.withOne (Json.computed .power)),
   .maybe "%" (.withOne Json.modulo)]

/-- The entries for comparison. -/
def comparisons : List Entry :=
  [.maybe "==" (.withOne fun v w => .bool (v.equals w)),
   .maybe "!=" (.withOne fun v w => .bool !v.equals w),
   .maybe "<" (.withOne (Json.ordered (· == .lt))),
   .maybe "<=" (.withOne (Json.ordered (· != .gt))),
   .maybe ">" (.withOne (Json.ordered (· == .gt))),
   .maybe ">=" (.withOne (Json.ordered (· != .lt)))]

/-- The entries for functions of one number. -/
def functions : List Entry :=
  [.maybe "isFinite" (.alone (Json.ofNumber fun x => .bool x.toExtended.isFinite)),
   .maybe "isNan" (.alone (Json.ofNumber fun x => .bool x.toExtended.isNan)),
   .maybe "abs" (.alone (Json.ofNumber fun x => .ofQuantity x.abs)),
   .maybe "ceil" (.alone (Json.ofNumber fun x => .ofQuantity (x.rounded ceiling))),
   .maybe "floor" (.alone (Json.ofNumber fun x => .ofQuantity (x.rounded floor))),
   .maybe "exp" (.alone (Json.real Extended.exp)),
   .maybe "ln" (.alone (Json.real Extended.log)),
   .maybe "log" (.alone (Json.real Extended.log10)),
   .maybe "lg" (.alone (Json.real Extended.log2)),
   .maybe "sqrt" (.alone (Json.real Extended.sqrt)),
   .maybe "sin" (.alone (Json.real Extended.sin)),
   .maybe "cos" (.alone (Json.real Extended.cos)),
   .maybe "tan" (.alone (Json.real Extended.tan)),
   .maybe "sinh" (.alone (Json.real Extended.sinh)),
   .maybe "cosh" (.alone (Json.real Extended.cosh)),
   .maybe "tanh" (.alone (Json.real Extended.tanh)),
   .maybe "erf" (.alone (Json.real Extended.erf))]

end Catalog

end Reshape
