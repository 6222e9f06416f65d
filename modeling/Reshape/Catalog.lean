import Reshape.Catalog.Arithmetic
import Reshape.Catalog.Coercion
import Reshape.Catalog.Digest
import Reshape.Catalog.Sequence
import Reshape.Catalog.Text

/-!
# The catalog

The operations that come with the library, and the registry that holds them.

Main results:

- Definition `Catalog.entries`: all operations of the catalog.
- Definition `Registry.catalog`: the registry of the catalog.
-/

namespace Reshape

/-- All operations of the catalog. -/
def Catalog.entries : List Entry :=
  coercions ++ sequences ++ texts ++ arithmetic ++ comparisons ++ functions ++ digests

/-- The registry of the catalog. -/
def Registry.catalog : Registry :=
  Registry.empty.extend (Catalog.entries.map Catalog.Entry.registration)

end Reshape
