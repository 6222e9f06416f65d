import Reshape.Error
import Reshape.Json.Document
import Reshape.Text.Search

/-!
# Lookup tables in files

Operations may look values up in a table that a file holds as a JSON object.  A table
is read once and then kept for good, whatever becomes of the file; a file that cannot
be read, or holds no table, is tried again the next time.

The files are any map from paths to bytes.  Nothing is assumed of it: a path from the root
or through a folder further up is one path among others, and so is a path that two names
lead to.

Everything that runs may load tables, so runs carry the files and the tables loaded so far,
also past an error.

Main results:

- Structure `Files`: what reading a path gives.
- Definition `pathKey`: when two paths count as one.
- Definition `loadTable`: the table in a file.
-/

namespace Reshape

/-- A lookup table. -/
abbrev Table := Fields Json

/-- The files at one time: the bytes that reading a path gives, or nothing where it fails. -/
structure Files where
  read? : String → Option ByteArray

/-- Files of which none can be read. -/
def Files.none : Files :=
  ⟨fun _ => .none⟩

/-- The files that a run can read, and the tables loaded so far. -/
structure Tables where
  files : Files
  loaded : List (List String × Table)

/-- A computation that may load tables and may stop with an error.  Tables loaded before
an error stay loaded. -/
abbrev Run := ExceptT Error (StateM Tables)

namespace Run

/-- A computation without effect on the tables. -/
def ofExcept {α : Type} : Except Error α → Run α
  | .ok value => pure value
  | .error error => throw error

/-- A computation with its errors changed. -/
def mapError {α : Type} (f : Error → Error) (run : Run α) : Run α :=
  ExceptT.adapt f run

end Run

/-! ## Paths of tables -/

/-- The names along a path, in the order in which they are written. -/
def pathNames (path : String) : List String :=
  (Text.splitOn ['/'] path.toList).map String.ofList

/-- A name that stays in the folder. -/
def isIdle (name : String) : Bool :=
  name == "" || name == "."

/-- The names along a path that tell it from other paths.  Empty names and points count
only at the front, where they mark a path from the root or from the current folder. -/
def pathKey (path : String) : List String :=
  let names := pathNames path
  let inner := names.filter (!isIdle ·)
  match names with
  | "." :: _ => "." :: inner
  | "" :: _ :: _ => "/" :: inner
  | _ => inner

namespace Tables

/-- No table loaded yet. -/
def ofFiles (files : Files) : Tables :=
  ⟨files, []⟩

/-- The table in a file as it is now. -/
def read (files : Files) (path : String) : Except Error Table :=
  match (files.read? path).bind String.fromUTF8? with
  | none => .error (.unreadableFile path "")
  | some content =>
    match Json.ofDocument? content with
    | none => .error (.invalidJson "")
    | some (.object table) => .ok table
    | some found => .error (.invalidArguments "" "" (.notTable path found))

/-- The number of tables loaded so far. -/
def count (tables : Tables) : Nat :=
  tables.loaded.length

end Tables

/-- The table in a file, as it was when it was first loaded. -/
def loadTable (path : String) : Run Table := do
  let tables ← get
  match tables.loaded.lookup (pathKey path) with
  | some table => return table
  | none =>
    let table ← Run.ofExcept (Tables.read tables.files path)
    set { tables with loaded := (pathKey path, table) :: tables.loaded }
    return table

end Reshape
