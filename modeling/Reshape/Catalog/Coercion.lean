import Reshape.Catalog.Entry
import Reshape.Json.Coercion
import Reshape.Json.Order

/-!
# Coercions and truth

The operations that turn the running value into a text, a truth value or a number,
that combine truth values, and that stand in for null.

Main results:

- Definition `Catalog.coercions`: the entries.
-/

namespace Reshape

namespace Catalog

/-- The entries for coercions, truth values and defaults. -/
def coercions : List Entry :=
  [.direct "toString" (.alone fun v => (v.toText?.map .string).getD .null),
   .direct "toBool" (.alone fun v => .bool v.toBool),
   .direct "toFloat" (.alone fun v => (v.toExtended?.map .ofExtended).getD .null),
   .direct "toInt" (.alone fun v => (v.toInteger?.map .ofInt).getD .null),
   .direct "toNumber" (.alone fun v => v.toNumber?.getD .null),
   .direct "and" (.withAny fun v arguments => .bool (v.isTruthy && arguments.all Json.isTruthy)),
   .direct "or" (.withAny fun v arguments => .bool (v.isTruthy || arguments.any Json.isTruthy)),
   .maybe "not" (.alone fun v => .bool !v.isTruthy),
   .direct "isNull" (.alone fun v => .bool v.isNull),
   .direct "default" (.withOne fun v a => if v.isNull then a else v),
   .direct "defaultNan" (.alone fun v => if v.isNull then .ofExtended .nan else v)]

end Catalog

end Reshape
