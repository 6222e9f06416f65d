import Reshape.Catalog.Entry
import Reshape.Digest.Md5
import Reshape.Digest.Sha1
import Reshape.Digest.Sha2

/-!
# Digests of values

The operations that digest the text of a value, with and without the text of another
value as a key.

Main results:

- Definition `Catalog.digests`: the entries.
-/

namespace Reshape

namespace Json

/-- The bytes of the text of a value. -/
def textBytes (v : Json) : List UInt8 :=
  v.text.toUTF8.toList

end Json

namespace Catalog

/-- The digest functions by name. -/
def digestFunctions : List (String × DigestFunction) :=
  [("md5", Digest.md5), ("sha1", Digest.sha1), ("sha224", Digest.sha224),
   ("sha256", Digest.sha256), ("sha384", Digest.sha384), ("sha512", Digest.sha512)]

/-- The entries for digests. -/
def digests : List Entry :=
  digestFunctions.flatMap fun (name, f) =>
    [.maybe name (.alone fun v => .ofChars (Digest.hex (f.digest v.textBytes))),
     .maybe ("hmac_" ++ name) (.withOne fun v key =>
       .ofChars (Digest.hex (f.keyed key.textBytes v.textBytes)))]

end Catalog

end Reshape
