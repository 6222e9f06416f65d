import Reshape.Catalog.Entry
import Reshape.Text.Blank
import Reshape.Text.Case
import Reshape.Text.Search

/-!
# Texts

The operations that map, search, cut and join strings.

Main results:

- Definition `Catalog.texts`: the entries.
-/

namespace Reshape

namespace Json

/-! ## Mapping -/

/-- A string with its characters mapped, null for other values. -/
def mapText (f : List Char → List Char) : Json → Json
  | string s => ofChars (f s.toList)
  | _ => null

/-- What a function finds about two strings, null for other values. -/
def ofTexts (f : List Char → List Char → Json) : Json → Json → Json
  | string s, string t => f s.toList t.toList
  | _, _ => null

/-! ## Pieces -/

/-- The pieces of a text around a separator as an array of strings. -/
def pieces (separator cs : List Char) : Json :=
  array ((Text.splitOn separator cs).map ofChars)

/-- The pieces of a string around a fixed separator, null for other values. -/
def cut (separator : List Char) : Json → Json
  | string s => pieces separator s.toList
  | _ => null

/-- The strings of an array with a separator between them, null when an item is no
string. -/
def glue (separator : List Char) : Json → Json
  | array items =>
    ((items.mapM string?).map fun texts =>
      ofChars (separator.intercalate (texts.map String.toList))).getD null
  | _ => null

/-- The texts of the items other than null with a separator between them. -/
def join : Json → Option Json → Json
  | array items, separator? =>
    let separator :=
      match separator? with
      | none | some null => []
      | some v => v.text.toList
    ofChars <| separator.intercalate <|
      (items.filter fun item => !item.isNull).map fun item => item.text.toList
  | _, _ => null

/-- The pieces of a string around another one, null when that is empty. -/
def split : Json → Json → Json :=
  ofTexts fun cs separator => if separator.isEmpty then null else pieces separator cs

/-! ## Search -/

/-- The number of characters before the first occurrence of a string, or minus one. -/
def find : Json → Json → Json :=
  ofTexts fun cs needle =>
    match Text.offset? needle cs with
    | some offset => ofInt offset
    | none => ofInt (-1)

/-- A string with every occurrence of another replaced. -/
def replace : Json → Json → Json → Json
  | string s, string old, string new =>
    ofChars (Text.replace old.toList new.toList s.toList)
  | _, _, _ => null

/-- Whether a string starts with another. -/
def startsWith : Json → Json → Json :=
  ofTexts fun cs start => bool (start.isPrefixOf cs)

/-- Whether a string ends with another. -/
def endsWith : Json → Json → Json :=
  ofTexts fun cs final => bool (final.isSuffixOf cs)

end Json

namespace Catalog

/-- The entries for strings. -/
def texts : List Entry :=
  [.direct "join" (.withOptional Json.join),
   .maybe "lower" (.alone (Json.mapText Text.toLower)),
   .maybe "upper" (.alone (Json.mapText Text.toUpper)),
   .maybe "capitalize" (.alone (Json.mapText Text.capitalize)),
   .maybe "swapCase" (.alone (Json.mapText Text.swapCase)),
   .maybe "strip" (.alone (Json.mapText Text.trim)),
   .maybe "lstrip" (.alone (Json.mapText Text.trimStart)),
   .maybe "rstrip" (.alone (Json.mapText Text.trimEnd)),
   .maybe "find" (.withOne Json.find),
   .maybe "replace" (.withTwo Json.replace),
   .maybe "startsWith" (.withOne Json.startsWith),
   .maybe "endsWith" (.withOne Json.endsWith),
   .maybe "split" (.withOne Json.split),
   .maybe "lines" (.alone (Json.cut ['\n'])),
   .maybe "unlines" (.alone (Json.glue ['\n'])),
   .maybe "words" (.alone (Json.cut [' '])),
   .maybe "unwords" (.alone (Json.glue [' ']))]

end Catalog

end Reshape
