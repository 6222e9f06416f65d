import Reshape.Catalog
import Reshape.Records

/-!
# The standard registry

The standard registry holds the catalog, the callbacks for nested records and for
lookup tables, and the operation that looks the running value up in the table of a
file.

Main results:

- Definition `Registry.standard`: the registry that transformers start from.
-/

namespace Reshape

/-- The callback that looks a value up.  Its table is the parameter `table`, or else
`enum_dict`. -/
def lookupCallback : Callback := fun value invocation =>
  match invocation.eitherParameter? "table" "enum_dict" with
  | none =>
    throw (.malformed (.missingParameter "enumChange" "table" "enum_dict") invocation.location)
  | some table => pure (if value.isNull then .null else value.lookup table)

/-- Looks the running value up in the table of the file that the argument names. -/
def lookupInFile : Operation := fun value arguments =>
  match arguments with
  | [.string path] => do
    let table ← loadTable path
    return (Fields.get? value.text table).getD .null
  | [found] => throw (.invalidArguments "" "" (.notPath found))
  | _ => throw (.invalidArguments "" "" (.count 1 arguments.length))

namespace Registry

/-- What the standard registry holds beside the catalog.  The callbacks go by several
names. -/
def collaborators : List Registration :=
  [.callback "transform" recordsCallback,
   .callback "list" recordsCallback,
   .callback "jtl_change" recordsCallback,
   .callback "enumChange" lookupCallback,
   .callback "enum_change" lookupCallback,
   .maybe "enumFileChange" lookupInFile]

/-- The registry that transformers start from. -/
def standard : Registry :=
  catalog.extend collaborators

end Registry

end Reshape
