import Reshape.Proofs.Outcomes
import Reshape.Proofs.SamePaths

/-!
# Tables over a history of loads

Tables are loaded while the files change, and all who load share the tables.  A history is
any interleaving of loads and changes, and what it leaves can be told from its loads alone:
under each key stands the table of the first load under the key that gave one, read from
the files of that time, and nothing else.  So a load gives the table that was read first,
or reads the file as it is now, and a load that fails leaves no trace.

The files may be anything at any time.  Only where two paths that count as one are read must
they lead to the same content for the first table to be one of both.

Main results:

- Theorem `loadTable_cases`: what one load does.
- Theorem `Tables.History.consistent_of`: the tables after a history are those of its
  loads.
- Theorem `Tables.History.load_after`: a load after a history.
-/

namespace Reshape

/-! ## Tables in files -/

namespace Files

/-- The file at a path holds a table: it is text, and the text is that of an object. -/
def HoldsTable (files : Files) (path : String) (table : Table) : Prop :=
  ∃ content text, files.read? path = some content ∧ String.fromUTF8? content = some text ∧
    Json.ofDocument? text = some (.object table)

/-- Paths that count as one lead to the same content, as far as they can be read. -/
def ReadsAlike (files : Files) : Prop :=
  ∀ path other content content', SamePath path other → files.read? path = some content →
    files.read? other = some content' → content = content'

/-- A path that can be read holds the table that is held under one that counts as the same. -/
theorem HoldsTable.of_samePath {files : Files} {path other : String} {table : Table}
    {content : ByteArray} (h : files.HoldsTable other table) (halike : files.ReadsAlike)
    (hsame : SamePath other path) (hpath : files.read? path = some content) :
    files.HoldsTable path table := by
  obtain ⟨content', text, hother, htext, htable⟩ := h
  obtain rfl := halike other path content' content hsame hother hpath
  exact ⟨content', text, hpath, htext, htable⟩

end Files

/-- Reading gives the table that a file holds. -/
theorem Tables.read_eq_ok_iff {files : Files} {path : String} {table : Table} :
    read files path = .ok table ↔ files.HoldsTable path table := by
  unfold read Files.HoldsTable
  cases hcontent : files.read? path with
  | none => simp
  | some content =>
    cases htext : String.fromUTF8? content with
    | none => simp [htext]
    | some text =>
      cases hdocument : Json.ofDocument? text with
      | none => simp [htext, hdocument]
      | some document => cases document <;> simp [htext, hdocument]

/-! ## One load -/

/-- A load gives the table under the key of its path.  If there is none it reads the file;
a table is kept, and an error changes nothing. -/
theorem loadTable_cases (path : String) (tables : Tables) :
    (∃ table, tables.loaded.lookup (pathKey path) = some table ∧
      (loadTable path).on tables = (.ok table, tables)) ∨
    tables.loaded.lookup (pathKey path) = none ∧
      ((∃ table, Tables.read tables.files path = .ok table ∧ (loadTable path).on tables =
          (.ok table, { tables with loaded := (pathKey path, table) :: tables.loaded })) ∨
        ∃ error, Tables.read tables.files path = .error error ∧
          (loadTable path).on tables = (.error error, tables)) := by
  have hget : (get : Run Tables).on tables = (.ok tables, tables) := rfl
  unfold loadTable
  rw [Run.on_bind, hget]
  simp only
  cases hlookup : tables.loaded.lookup (pathKey path) with
  | some table => exact .inl ⟨table, rfl, rfl⟩
  | none =>
    cases hread : Tables.read tables.files path with
    | ok table => exact .inr ⟨rfl, .inl ⟨table, rfl, rfl⟩⟩
    | error error => exact .inr ⟨rfl, .inr ⟨error, rfl, rfl⟩⟩

/-- A load that fails changes nothing. -/
theorem eq_of_loadTable_error {path : String} {tables after : Tables} {error : Error}
    (h : (loadTable path).on tables = (.error error, after)) : after = tables := by
  rcases loadTable_cases path tables with ⟨table, -, hrun⟩ |
    ⟨-, ⟨table, -, hrun⟩ | ⟨first, -, hrun⟩⟩
  · rw [h] at hrun
    cases hrun
  · rw [h] at hrun
    cases hrun
  · rw [h] at hrun
    exact congrArg Prod.snd hrun

/-! ## Histories -/

namespace Tables

/-- What happens in the life of tables: a path is loaded, or the files change. -/
inductive Event where
  | load (path : String)
  | change (files : Files)

/-- A load: the files at its time, the path, and what it came to. -/
structure Load where
  files : Files
  path : String
  result : Except Error Table

/-- The table that a load gave, if it gave one. -/
def Load.table? (load : Load) : Option Table :=
  load.result.toOption

/-- A load gave a table, and its path counts as the given one. -/
def Load.Provides (load : Load) (path : String) : Prop :=
  load.table?.isSome ∧ SamePath load.path path

theorem Load.provides_iff {load : Load} {path : String} :
    (load.table?.isSome && pathKey load.path == pathKey path) = true ↔ load.Provides path := by
  rw [Bool.and_eq_true, beq_iff_eq, pathKey_eq_iff, Provides]

/-- The loads from first to last, and the tables that they leave. -/
structure History where
  loads : List Load
  tables : Tables

namespace History

/-- A history that goes on with an event. -/
def add (history : History) : Event → History
  | .load path =>
    let (result, tables) := (loadTable path).on history.tables
    ⟨history.loads ++ [⟨history.tables.files, path, result⟩], tables⟩
  | .change files => { history with tables := { history.tables with files } }

/-- The history of events, from files on and without any table. -/
def of (files : Files) (events : List Event) : History :=
  events.foldl add ⟨[], ofFiles files⟩

/-- The first load under a key that gave a table. -/
def first? (history : History) (key : List String) : Option Load :=
  history.loads.find? fun load => load.table?.isSome && pathKey load.path == key

/-- The keys of the loads that gave a table. -/
def keys (history : History) : List (List String) :=
  (history.loads.filter (·.table?.isSome)).map (pathKey ·.path)

/-- The tables are those of the loads: under a key stands the table of the first load that
gave one, which was read from the files of its time, and no key stands twice. -/
structure Consistent (history : History) : Prop where
  lookup : ∀ key, history.tables.loaded.lookup key = (history.first? key).bind Load.table?
  read : ∀ key load, history.first? key = some load →
    Tables.read load.files load.path = load.result
  nodup : (history.tables.loaded.map Prod.fst).Nodup

section First

variable {history : History} {key : List String}

/-- The first load under a key is one under the key, and gave a table. -/
theorem exists_of_first? {load : Load} (h : history.first? key = some load) :
    pathKey load.path = key ∧ ∃ table, load.result = .ok table := by
  have hload := List.find?_some h
  simp only [Bool.and_eq_true, beq_iff_eq] at hload
  refine ⟨hload.2, ?_⟩
  cases hresult : load.result with
  | ok table => exact ⟨table, rfl⟩
  | error error => simp [Load.table?, hresult, Except.toOption] at hload

/-- The keys of the loads that gave a table are those that have a first one. -/
theorem mem_keys_iff : key ∈ history.keys ↔ history.first? key ≠ none := by
  simp only [keys, first?, List.mem_map, List.mem_filter, ne_eq, List.find?_eq_none,
    Bool.and_eq_true, beq_iff_eq, not_forall, not_not]
  constructor
  · rintro ⟨load, ⟨hload, htable⟩, hkey⟩
    exact ⟨load, hload, htable, hkey⟩
  · rintro ⟨load, hload, htable, hkey⟩
    exact ⟨load, ⟨hload, htable⟩, hkey⟩

/-- One more load is the first one under its key when it gives a table and no earlier one
did. -/
theorem first?_snoc (history : History) (load : Load) (after : Tables) (key : List String) :
    first? ⟨history.loads ++ [load], after⟩ key = (history.first? key).or
      (if load.table?.isSome && pathKey load.path == key then some load else none) := by
  unfold first?
  rw [List.find?_append, List.find?_singleton]

/-- A key has no first load exactly when no table stands under it. -/
theorem Consistent.first?_eq_none_iff (h : history.Consistent) :
    history.first? key = none ↔ history.tables.loaded.lookup key = none := by
  rw [h.lookup]
  cases hfirst : history.first? key with
  | none => simp
  | some load =>
    rcases exists_of_first? hfirst with ⟨-, table, hresult⟩
    simp [Load.table?, hresult, Except.toOption]

/-- The keys of the loads that gave a table are the keys of the tables. -/
theorem Consistent.mem_keys_iff (h : history.Consistent) :
    key ∈ history.keys ↔ key ∈ history.tables.loaded.map Prod.fst := by
  rw [History.mem_keys_iff, ne_eq, h.first?_eq_none_iff, List.lookup_eq_none_iff]
  simp

/-- The first load under the key of a path is the first one that gave a table for the path. -/
theorem first?_eq_some_iff {path : String} {load : Load} :
    history.first? (pathKey path) = some load ↔ load.Provides path ∧
      ∃ front back, history.loads = front ++ load :: back ∧
        ∀ earlier ∈ front, ¬earlier.Provides path := by
  rw [first?, List.find?_eq_some_iff_append]
  simp only [Bool.not_eq_true', ← Bool.not_eq_true, Load.provides_iff]

/-- There is no first load under the key of a path when none gave a table for the path. -/
theorem first?_eq_none_iff {path : String} :
    history.first? (pathKey path) = none ↔ ∀ load ∈ history.loads, ¬load.Provides path := by
  simp only [first?, List.find?_eq_none, Load.provides_iff]

/-- There are as many tables as different paths for which loads gave one. -/
theorem Consistent.exists_paths (h : history.Consistent) :
    ∃ paths : List String, paths.length = history.tables.count ∧
      paths.Pairwise (¬SamePath · ·) ∧
      ∀ path, (∃ load ∈ history.loads, load.Provides path) ↔
        ∃ other ∈ paths, SamePath other path := by
  have hloads : ∀ key ∈ history.tables.loaded.map Prod.fst, ∃ load ∈ history.loads,
      load.table?.isSome ∧ pathKey load.path = key := by
    intro key hkey
    simpa [keys, and_assoc] using h.mem_keys_iff.mpr hkey
  choose load hload htable hkey using hloads
  -- The paths are those of one load for each key, and the keys do not repeat.
  let paths := (history.tables.loaded.map Prod.fst).attach.map fun key => (load key.1 key.2).path
  have hpaths : paths.map pathKey = history.tables.loaded.map Prod.fst := by
    rw [List.map_map]
    refine Eq.trans ?_ (List.attach_map_subtype_val _)
    exact List.map_congr_left fun key _ => hkey key.1 key.2
  refine ⟨paths, ?_, ?_, fun path => ⟨?_, ?_⟩⟩
  · rw [count, ← List.length_map pathKey, hpaths, List.length_map]
  · have hnodup := h.nodup
    rw [← hpaths, List.nodup_iff_pairwise_ne, List.pairwise_map] at hnodup
    exact hnodup.imp fun hne hsame => hne (pathKey_eq_iff.mpr hsame)
  · rintro ⟨given, hgiven, hsome, hsame⟩
    have hmem : pathKey given.path ∈ history.keys :=
      List.mem_map_of_mem (List.mem_filter.mpr ⟨hgiven, hsome⟩)
    rw [h.mem_keys_iff, ← hpaths] at hmem
    obtain ⟨other, hother, heq⟩ := List.mem_map.mp hmem
    exact ⟨other, hother, (pathKey_eq_iff.mp heq).trans hsame⟩
  · rintro ⟨other, hother, hsame⟩
    obtain ⟨key, -, rfl⟩ := List.mem_map.mp hother
    exact ⟨_, hload key.1 key.2, htable key.1 key.2, hsame⟩

end First

section Step

variable {history : History} (h : history.Consistent)

include h

/-- A load that is not the first one under any key and leaves the tables alone. -/
theorem Consistent.add_repeated {load : Load}
    (hrepeated : load.table?.isSome → history.first? (pathKey load.path) ≠ none) :
    Consistent ⟨history.loads ++ [load], history.tables⟩ := by
  have hfirst : ∀ key, first? ⟨history.loads ++ [load], history.tables⟩ key =
      history.first? key := by
    intro key
    rw [first?_snoc]
    split
    · rename_i hload
      simp only [Bool.and_eq_true, beq_iff_eq] at hload
      rcases Option.ne_none_iff_exists'.mp (hrepeated hload.1) with ⟨earlier, hearlier⟩
      rw [hload.2] at hearlier
      rw [hearlier, Option.some_or]
    · rw [Option.or_none]
  refine ⟨fun key => ?_, fun key load hload => ?_, h.nodup⟩
  · rw [hfirst]
    exact h.lookup key
  · rw [hfirst] at hload
    exact h.read key load hload

/-- A load that is the first one under its key and keeps the table that it read. -/
theorem Consistent.add_first {path : String} {table : Table}
    (hlookup : history.tables.loaded.lookup (pathKey path) = none)
    (hread : Tables.read history.tables.files path = .ok table) :
    Consistent ⟨history.loads ++ [⟨history.tables.files, path, .ok table⟩],
      { history.tables with loaded := (pathKey path, table) :: history.tables.loaded }⟩ := by
  have hnone := h.first?_eq_none_iff.mpr hlookup
  refine ⟨fun key => ?_, fun key load hload => ?_, ?_⟩
  · rw [first?_snoc, List.lookup_cons]
    by_cases hkey : key = pathKey path
    · subst hkey
      simp [hnone, Load.table?, Except.toOption]
    · have hbeq : (key == pathKey path) = false := by simpa using hkey
      simp [hbeq, Ne.symm hkey, h.lookup]
  · rw [first?_snoc] at hload
    rcases Option.or_eq_some_iff.mp hload with hload | ⟨-, hload⟩
    · exact h.read key load hload
    · split at hload
      · cases hload
        exact hread
      · cases hload
  · rw [List.map_cons, List.nodup_cons]
    refine ⟨fun hmem => ?_, h.nodup⟩
    exact History.mem_keys_iff.mp (h.mem_keys_iff.mpr hmem) hnone

/-- One event keeps the tables those of the loads. -/
theorem Consistent.add (event : Event) : (history.add event).Consistent := by
  cases event with
  | change files => exact ⟨h.lookup, h.read, h.nodup⟩
  | load path =>
    have hadd : history.add (.load path) =
        ⟨history.loads ++ [⟨history.tables.files, path, ((loadTable path).on history.tables).1⟩],
          ((loadTable path).on history.tables).2⟩ := rfl
    rw [hadd]
    rcases loadTable_cases path history.tables with ⟨table, hlookup, hrun⟩ |
      ⟨hlookup, ⟨table, hread, hrun⟩ | ⟨error, hread, hrun⟩⟩
    · rw [hrun]
      apply h.add_repeated
      intro _
      rw [ne_eq, h.first?_eq_none_iff, hlookup]
      simp
    · rw [hrun]
      exact h.add_first hlookup hread
    · rw [hrun]
      apply h.add_repeated
      intro htable
      cases htable

end Step

/-- After every history the tables are those of its loads. -/
theorem consistent_of (files : Files) (events : List Event) :
    (of files events).Consistent := by
  have hrun : ∀ history : History, history.Consistent → (events.foldl add history).Consistent := by
    induction events with
    | nil => exact fun history h => h
    | cons event events ih => exact fun history h => ih _ (h.add event)
  apply hrun
  exact ⟨fun key => rfl, fun key load hload => (nomatch hload), List.nodup_nil⟩

section Last

variable {history : History} (h : history.Consistent) {path : String}

include h

/-- A load under a key with a first load gives the table of that one, and changes
nothing. -/
theorem Consistent.load_of_first? {load : Load}
    (hload : history.first? (pathKey path) = some load) :
    ∃ table, load.files.HoldsTable load.path table ∧
      (loadTable path).on history.tables = (.ok table, history.tables) := by
  rcases exists_of_first? hload with ⟨hkey, table, hresult⟩
  have hlookup : history.tables.loaded.lookup (pathKey path) = some table := by
    simp [h.lookup, hload, Load.table?, hresult, Except.toOption]
  refine ⟨table, read_eq_ok_iff.mp ((h.read _ load hload).trans hresult), ?_⟩
  rcases loadTable_cases path history.tables with ⟨kept, hkept, hrun⟩ | ⟨hmissing, -⟩
  · rw [hlookup] at hkept
    rw [hrun, Option.some.inj hkept]
  · rw [hlookup] at hmissing
    cases hmissing

/-- A load under a key without a first load gives the table that the file holds now. -/
theorem Consistent.load_of_first?_eq_none (hnone : history.first? (pathKey path) = none)
    (table : Table) : ((loadTable path).on history.tables).1 = .ok table ↔
      history.tables.files.HoldsTable path table := by
  have hlookup := h.first?_eq_none_iff.mp hnone
  rw [← read_eq_ok_iff]
  rcases loadTable_cases path history.tables with ⟨kept, hkept, -⟩ |
    ⟨-, ⟨found, hread, hrun⟩ | ⟨error, hread, hrun⟩⟩
  · rw [hlookup] at hkept
    cases hkept
  · rw [hrun, hread]
  · rw [hrun, hread]

end Last

/-- A load after a history gives the table of the first load that gave one for a path that
counts as the same, as it stood in the file at that time, and changes nothing; the table is
that of the path itself then, if paths that count as one are read alike and the path can be
read.  Without such a load it gives the table that the file holds now, if it holds one.  A
load that fails changes nothing, and there are as many tables as different paths for which
loads gave one. -/
theorem load_after (files : Files) (events : List Event) (path : String) :
    let history := of files events
    (∀ front load back, history.loads = front ++ load :: back → load.Provides path →
      (∀ earlier ∈ front, ¬earlier.Provides path) →
      ∃ table, load.files.HoldsTable load.path table ∧
        (load.files.ReadsAlike → ∀ content, load.files.read? path = some content →
          load.files.HoldsTable path table) ∧
        (loadTable path).on history.tables = (.ok table, history.tables)) ∧
    ((∀ load ∈ history.loads, ¬load.Provides path) →
      ∀ table, ((loadTable path).on history.tables).1 = .ok table ↔
        history.tables.files.HoldsTable path table) ∧
    (∀ error after, (loadTable path).on history.tables = (.error error, after) →
      after = history.tables) ∧
    ∃ paths : List String, paths.length = history.tables.count ∧
      paths.Pairwise (¬SamePath · ·) ∧
      ∀ path, (∃ load ∈ history.loads, load.Provides path) ↔
        ∃ other ∈ paths, SamePath other path := by
  intro history
  have hconsistent : history.Consistent := consistent_of files events
  refine ⟨fun front load back hloads hprovides hearlier => ?_, fun hnone table => ?_,
    fun error after hrun => eq_of_loadTable_error hrun, hconsistent.exists_paths⟩
  · have hfirst := first?_eq_some_iff.mpr ⟨hprovides, front, back, hloads, hearlier⟩
    obtain ⟨table, hholds, hrun⟩ := hconsistent.load_of_first? hfirst
    exact ⟨table, hholds, fun halike content hcontent =>
      hholds.of_samePath halike hprovides.2 hcontent, hrun⟩
  · exact hconsistent.load_of_first?_eq_none (first?_eq_none_iff.mpr hnone) table

/-- One file that can be read under several paths. -/
def ratesFile (text : String) : Files :=
  ⟨fun path =>
    if path ∈ ["/srv/rates.json", "//srv/./rates.json", "rates.json", "./rates.json"] then
      some text.toUTF8
    else
      .none⟩

/-- A file that holds no table when it is first loaded, is repaired and loaded again, and is
lost then. -/
def repairEvents : List Event :=
  [.load "/srv/rates.json", .change (ratesFile "[1]"), .load "/srv/rates.json",
    .change (ratesFile "\x7b\"eur\": 1\x7d"), .load "//srv/./rates.json", .load "rates.json",
    .load "./rates.json", .load "/srv/rates.json", .change .none]

/-- The table of the repaired file is given after the file is lost, also under a path that
could not be read. -/
theorem load_after_repair :
    (∃ front load back table, (of .none repairEvents).loads = front ++ load :: back ∧
      load.Provides "/srv/rates.json/" ∧
      (∀ earlier ∈ front, ¬earlier.Provides "/srv/rates.json/") ∧
      load.files.HoldsTable "//srv/./rates.json" table ∧
      (loadTable "/srv/rates.json/").on (of .none repairEvents).tables =
        (.ok table, (of .none repairEvents).tables)) ∧
    (∀ load ∈ (of .none repairEvents).loads, ¬load.Provides "/rates.json") ∧
    (of .none repairEvents).tables.count = 3 := by
  have hsome : ((of .none repairEvents).first? (pathKey "/srv/rates.json/")).isSome := by
    decide +kernel
  rcases Option.isSome_iff_exists.mp hsome with ⟨load, hload⟩
  obtain ⟨hprovides, front, back, hloads, hearlier⟩ := first?_eq_some_iff.mp hload
  have hafter := load_after .none repairEvents "/srv/rates.json/"
  rcases hafter.1 front load back hloads hprovides hearlier with ⟨table, hholds, -, hrun⟩
  have hpath : load.path = "//srv/./rates.json" := by
    have hpaths : ((of .none repairEvents).first? (pathKey "/srv/rates.json/")).map Load.path =
        some "//srv/./rates.json" := by decide +kernel
    rw [hload] at hpaths
    exact Option.some.inj hpaths
  exact ⟨⟨front, load, back, table, hloads, hprovides, hearlier, hpath ▸ hholds, hrun⟩,
    first?_eq_none_iff.mp (by decide +kernel), by decide +kernel⟩

end History

end Tables

end Reshape
