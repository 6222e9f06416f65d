import Reshape.Proofs.LoadedTables
import Reshape.Proofs.StandardRegistry

/-!
# Routes to a lookup table

A value is looked up in a table on one of several routes.  The operation takes the table
as its argument, the callback as a parameter of its call, and in both cases the table may
be an object or a text of one.  Another operation takes the path of a file that holds the
text.  The routes treat null in different ways: operations are wrapped, the callback tests
for it.

All routes lead to one entry: that under the string itself or under the text of any other
value, and null where the table has none.  Null has no entry.

Main results:

- Definition `entryFor`: the entry of a value in a table.
- Structure `LookupRoutes`: all routes lead to the entry of a value.
- Theorem `lookup_routes`: they do so whenever the text is that of the table.
-/

namespace Reshape

/-! ## Entries -/

/-- The entry of a value in a table. -/
def entryFor (table : Table) : Json → Json
  | .null => .null
  | .string key => (Fields.get? key table).getD .null
  | value => (Fields.get? value.compact table).getD .null

/-- A value is null or it counts as not null. -/
theorem Json.eq_null_or (value : Json) : value = .null ∨ value.isNull = false := by
  cases value with
  | null => exact .inl rfl
  | bool | number | string | array | object => exact .inr rfl

/-- The entry of a value that is not null is the one under its text. -/
theorem entryFor_of_not_isNull (table : Table) {value : Json} (h : value.isNull = false) :
    entryFor table value = (Fields.get? value.text table).getD .null := by
  cases value with
  | null => cases h
  | bool | number | string | array | object => rfl

/-- What can be given for a table: the object itself, or a text of it. -/
def tableArguments (text : String) (table : Table) : List Json :=
  [.object table, .string text]

section Arguments

variable {text : String} {table : Table}

/-- Nothing that can be given for a table is null. -/
theorem not_isNull_of_mem_tableArguments {argument : Json}
    (h : argument ∈ tableArguments text table) : argument.isNull = false := by
  simp only [tableArguments, List.mem_cons, List.not_mem_nil, or_false] at h
  rcases h with rfl | rfl <;> rfl

/-- However a table is given, the entry under the text of a value is found. -/
theorem lookup_of_mem_tableArguments (h : Json.ofDocument? text = some (.object table))
    {argument : Json} (hargument : argument ∈ tableArguments text table) (value : Json) :
    value.lookup argument = (Fields.get? value.text table).getD .null := by
  simp only [tableArguments, List.mem_cons, List.not_mem_nil, or_false] at hargument
  rcases hargument with rfl | rfl
  · rfl
  · simp [Json.lookup, h]

end Arguments

/-! ## Null propagation -/

/-- Without null an operation with null propagation is run. -/
theorem Operation.maybe_of_not_isNull (operation : Operation) {value argument : Json}
    (hvalue : value.isNull = false) (hargument : argument.isNull = false) :
    operation.maybe value [argument] = operation value [argument] := by
  simp [Operation.maybe, hvalue, hargument]

/-! ## The routes -/

/-- The entry of the lookup operation in the catalog. -/
def lookupEntry : Catalog.Entry :=
  .maybe "enumChange" (.withOne Json.lookup)

/-- The lookup operation is found under its name. -/
theorem Registry.operation?_standard_lookup :
    standard.operation? "enumChange" = some lookupEntry.registered := by
  have hmem : lookupEntry ∈ Catalog.entries := by
    unfold Catalog.entries Catalog.sequences lookupEntry
    simp
  have hname : lookupEntry.name = "enumChange" := rfl
  rw [← hname, operation?_standard_of_mem hmem]

/-- The operation on files is found under its name. -/
theorem Registry.operation?_standard_file :
    standard.operation? "enumFileChange" = some (Operation.maybe lookupInFile) := by
  rw [operation?_standard, if_pos rfl]

section Routes

variable {text : String} {table : Table}

/-- The lookup operation gives the entry of the running value. -/
theorem lookupEntry_registered (h : Json.ofDocument? text = some (.object table))
    {argument : Json} (hargument : argument ∈ tableArguments text table) (value : Json) :
    lookupEntry.registered value [argument] = pure (entryFor table value) := by
  rcases value.eq_null_or with rfl | hnull
  · rfl
  · have hrun : lookupEntry.registered value [argument] = pure (value.lookup argument) :=
      Operation.maybe_of_not_isNull _ hnull (not_isNull_of_mem_tableArguments hargument)
    rw [hrun, lookup_of_mem_tableArguments h hargument, entryFor_of_not_isNull table hnull]

/-- The callback gives the entry of the value of its call. -/
theorem lookupCallback_eq (h : Json.ofDocument? text = some (.object table))
    {argument : Json} (hargument : argument ∈ tableArguments text table) (value : Json)
    {invocation : Invocation}
    (hgiven : invocation.eitherParameter? "table" "enum_dict" = some argument) :
    lookupCallback value invocation = pure (entryFor table value) := by
  unfold lookupCallback
  rw [hgiven]
  rcases value.eq_null_or with rfl | hnull
  · rfl
  · simp only [hnull]
    rw [if_neg Bool.false_ne_true, lookup_of_mem_tableArguments h hargument,
      entryFor_of_not_isNull table hnull]

/-- A text is read back from the file that holds it. -/
theorem Tables.read_toUTF8 {files : Files} {path : String}
    (h : Json.ofDocument? text = some (.object table))
    (hfile : files.read? path = some text.toUTF8) : read files path = .ok table := by
  have hvalid : text.toUTF8.IsValidUTF8 := text.isValidUTF8
  have hdecode : String.fromUTF8? text.toUTF8 = some text := by
    unfold String.fromUTF8?
    rw [dif_pos hvalid]
    rfl
  exact read_eq_ok_iff.mpr ⟨_, text, hfile, hdecode, h⟩

/-- The operation on files gives the entry of the running value and keeps the table, which
it does not need for null. -/
theorem lookupInFile_on (h : Json.ofDocument? text = some (.object table)) {path : String}
    {tables : Tables} (hfile : tables.files.read? path = some text.toUTF8)
    (hnew : tables.loaded.lookup (pathKey path) = none) (value : Json) :
    (Operation.maybe lookupInFile value [.string path]).on tables =
      (.ok (entryFor table value), if value.isNull then tables else
        { tables with loaded := (pathKey path, table) :: tables.loaded }) := by
  rcases value.eq_null_or with rfl | hnull
  · rfl
  · have hload : (loadTable path).on tables =
        (.ok table, { tables with loaded := (pathKey path, table) :: tables.loaded }) := by
      have hread := Tables.read_toUTF8 h hfile
      rcases loadTable_cases path tables with ⟨found, hfound, -⟩ |
        ⟨-, ⟨found, hfound, hrun⟩ | ⟨error, herror, -⟩⟩
      · rw [hnew] at hfound
        cases hfound
      · rw [hread] at hfound
        cases hfound
        exact hrun
      · rw [hread] at herror
        cases herror
    have hrun : Operation.maybe lookupInFile value [.string path] =
        loadTable path >>= fun table => pure ((Fields.get? value.text table).getD .null) :=
      Operation.maybe_of_not_isNull lookupInFile hnull rfl
    rw [hrun, Run.on_bind, hload, hnull, entryFor_of_not_isNull table hnull]
    rfl

end Routes

/-! ## Agreement -/

/-- All routes to a table and to a text of it lead to the entry of a value. -/
structure LookupRoutes (text : String) (table : Table) (value : Json) : Prop where
  /-- The operation, on an object or a text. -/
  operation : ∀ argument ∈ tableArguments text table, ∀ location,
    applyOperation .standard value "enumChange" [argument] location = pure (entryFor table value)
  /-- A call whose expression has the value, with the table under either parameter. -/
  call : ∀ mode source expression location tables after function parameters,
    (evaluate .standard source expression location).on tables = (.ok value, after) →
    function ∈ Registry.lookupNames →
    ∀ argument ∈ tableArguments text table,
      Fields.get? "table" parameters = some argument ∨
        Fields.get? "table" parameters = none ∧
          Fields.get? "enum_dict" parameters = some argument →
      (Transformer.transform ⟨.standard, mode⟩ source (.call expression function parameters)
        location).on tables = (.ok (entryFor table value), after)
  /-- The operation on a file that holds the text and was not loaded before. -/
  file : ∀ path location tables, tables.files.read? path = some text.toUTF8 →
    tables.loaded.lookup (pathKey path) = none →
    (applyOperation .standard value "enumFileChange" [.string path] location).on tables =
      (.ok (entryFor table value), if value.isNull then tables else
        { tables with loaded := (pathKey path, table) :: tables.loaded })

/-- All routes to the table of a text lead to the same entry. -/
theorem lookup_routes {text : String} {table : Table}
    (h : Json.ofDocument? text = some (.object table)) (value : Json) :
    LookupRoutes text table value where
  operation argument hargument location := by
    unfold applyOperation
    rw [Registry.operation?_standard_lookup]
    simp only [lookupEntry_registered h hargument, Run.mapError_pure]
  call mode source expression location tables after function parameters hvalue hfunction
      argument hargument hgiven := by
    have heither (engine : Engine) :
        Invocation.eitherParameter? ⟨parameters, location, engine⟩ "table" "enum_dict" =
          some argument := Option.or_eq_some_iff.mpr hgiven
    unfold Transformer.transform
    rw [Transformer.transformWithin, Transformer.walk, Registry.callback?_standard_lookup hfunction]
    simp only
    rw [Run.on_bind, hvalue]
    simp only
    rw [lookupCallback_eq h hargument value (heither _), Run.mapError_pure, Run.on_pure]
  file path location tables hfile hnew := by
    unfold applyOperation
    rw [Registry.operation?_standard_file]
    simp only
    rw [Run.on_mapError, lookupInFile_on h hfile hnew]
    rfl

/-- A file under a path from the root. -/
def namesFile : Files :=
  ⟨fun path =>
    if path = "/tmp/names.json" then some "\x7b\"1\": \"one\"\x7d".toUTF8 else .none⟩

/-- The entry of the number one is found on all routes, among them a file. -/
theorem lookup_routes_one :
    applyOperation .standard (.number (.integer 1)) "enumChange"
        [.string "\x7b\"1\": \"one\"\x7d"] "" = pure (.string "one") ∧
      (Transformer.transform ⟨.standard, .oneToOne⟩ (.number (.integer 1))
        (.call "*" "enum_change" [("enum_dict", .object [("1", .string "one")])]) "").on
          (.ofFiles .none) = (.ok (.string "one"), .ofFiles .none) ∧
      ((applyOperation .standard (.number (.integer 1)) "enumFileChange"
        [.string "/tmp/names.json"] "").on (.ofFiles namesFile)).1 = .ok (.string "one") := by
  have hread : Json.ofDocument? "\x7b\"1\": \"one\"\x7d" =
      some (.object [("1", .string "one")]) := by decide +kernel
  have hroutes := lookup_routes hread (.number (.integer 1))
  have hentry : entryFor [("1", .string "one")] (.number (.integer 1)) = .string "one" := by
    decide +kernel
  have hoperation := hroutes.operation (.string "\x7b\"1\": \"one\"\x7d") (.tail _ (.head _)) ""
  have hcall := hroutes.call .oneToOne (.number (.integer 1)) "*" "" (.ofFiles .none)
    (.ofFiles .none) "enum_change" [("enum_dict", .object [("1", .string "one")])] rfl
    (.tail _ (.head _)) _ (.head _) (.inr ⟨rfl, rfl⟩)
  have hfile := hroutes.file "/tmp/names.json" "" (.ofFiles namesFile)
    (by simp [Tables.ofFiles, namesFile]) rfl
  rw [hentry] at hoperation hcall hfile
  exact ⟨hoperation, hcall, congrArg Prod.fst hfile⟩

end Reshape
