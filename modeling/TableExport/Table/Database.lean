import TableExport.Table.Definition.Body
import TableExport.Table.Definition.KeyText
import TableExport.Table.TableFunction

/-! # Tables in a database

A database holds the tables that statements created in it, and tables with its own catalog.  Names
are looked up without regard to ASCII letter case, in one place after the other.

Besides the columns, the catalog keeps the text of the statement, under the exact name only.
Computed columns and keys are taken from it.  So under a name in other letter case a table has no
keys, and one with a computed column is not found.

Main statements: the columns of a table that is not there are missing under its name
(`columns_of_missing`), and putting the foreign keys into the order of the catalog loses none and
adds none (`arrange_perm`). -/

namespace TableExport

/-- The tables of a database. -/
structure Database where
  tables : List Definition
  deriving DecidableEq, Repr

namespace Database

/-! ### The tables of a catalog -/

/-- A table that no statement defines, with columns given by name and affinity. -/
def builtIn (place : Place) (name : String) (columns : List (String × Affinity)) : Definition :=
  .plain place name (columns.map fun column => .filled column.1 column.2)

/-- A table with the catalog itself. -/
def catalogTable (place : Place) (name : String) : Definition :=
  builtIn place name
    [("type", .text), ("name", .text), ("tbl_name", .text), ("rootpage", .integer), ("sql", .text)]

/-- The tables of an empty database. -/
def empty : Database :=
  ⟨(["sqlite_master", "sqlite_schema"].flatMap fun name =>
      [catalogTable .main name, catalogTable .temporary name])
    ++ ["sqlite_temp_master", "sqlite_temp_schema"].map (catalogTable .temporary)⟩

/-- The table that remembers the last numbers given to rows of other tables. -/
def sequenceTable (place : Place) : Definition :=
  builtIn place "sqlite_sequence" [("name", .untyped), ("seq", .untyped)]

/-! ### Look-up -/

/-- The table with a name in a place. -/
def tableIn? (database : Database) (name : String) (place : Place) : Option Definition :=
  database.tables.find? fun table => table.place = place && Definition.sameName table.name name

/-- The table with a name in the first place that has one.  A function counts as a table unless a
table has its name. -/
def find? (database : Database) (places : List Place) (name : String) : Option Definition :=
  (places.findSome? (database.tableIn? name)).orElse fun _ => TableFunction.find? name

/-- The text that the catalog keeps under the very name. -/
def text? (database : Database) (places : List Place) (name : String) : Option (List Char) :=
  places.findSome? fun place =>
    (database.tables.find? fun table => table.place = place && table.name = name).map
      Definition.text

/-! ### Columns -/

/-- What keeps the catalog from reporting a column in a table with a name.  A computed column asks
for the text of the statement, and for the definitions of the table in it. -/
def columnFault? (name : String) (text? : Option (List Char)) (column : DefinedColumn) :
    Option CatalogFault :=
  let unread? : Option CatalogFault :=
    match column.isComputed, text? with
    | false, _ => none
    | true, none => some (.missingTable name)
    | true, some text => if Body.isFound text then none else some (.unreadStatement text)
  unread?.orElse fun _ => (DeclaredType.longArgument? column.typeText).map .longArgument

/-- What the catalog reports of a column in a table with a name. -/
def report (name : String) (text? : Option (List Char)) (column : DefinedColumn) :
    Except CatalogFault CatalogColumn :=
  match columnFault? name text? column with
  | some fault => .error fault
  | none => .ok ⟨column.name, DeclaredType.ofText column.typeText, some (!column.isRequired), false⟩

/-- The columns of a table, or what is wrong with the first one that has a fault. -/
def columns (database : Database) (places : List Place) (name : String) :
    Except CatalogFault (List CatalogColumn) :=
  match database.find? places name with
  | none => .error (.missingTable name)
  | some table => table.columns.mapM (report name (database.text? places name))

/-- The primary key of a table; none if the table is missing. -/
def primaryKey (database : Database) (places : List Place) (name : String) :
    Except CatalogFault (List String) :=
  match database.text? places name, database.find? places name with
  | some _, some table =>
      match database.columns places name with
      | .error (.missingTable _) => .ok []
      | .error fault => .error fault
      | .ok _ => .ok table.keyColumns
  | _, _ => .ok []

/-! ### Foreign keys -/

/-- A foreign key with the columns of the parent that it means.  Where the first of them has no name,
or none is given, the primary key stands; others without a name are left out. -/
def resolveKey (database : Database) (places : List Place) (key : ForeignKey) :
    Except CatalogFault ForeignKey :=
  let named := key.parentColumns.filter (· ≠ "")
  if key.parentColumns ≠ [] ∧ "" ∉ key.parentColumns then .ok key
  else
    (database.primaryKey places key.parent).map fun names =>
      if (key.parentColumns.headD "").isEmpty then { key with parentColumns := names ++ named }
      else { key with parentColumns := named }

/-- The keys, those with given names first and in the order of these. -/
def arrange : List (List String) → List ForeignKey → List ForeignKey
  | [], keys => keys
  | signature :: signatures, keys =>
      match keys.find? fun key => key.signature = signature with
      | some key => key :: arrange signatures (keys.erase key)
      | none => arrange signatures keys

/-- The foreign keys that a table declares, taken from the first place that has any. -/
def declaredKeys (database : Database) (places : List Place) (name : String) : List ForeignKey :=
  (places.findSome? fun place =>
    (database.tableIn? name place).bind fun table =>
      if table.foreignKeys.isEmpty then none else some table.foreignKeys).getD []

/-- The foreign keys of a table as the catalog lists them: those found in the text first, then the
others from the last one to the first. -/
def foreignKeys (database : Database) (places : List Place) (name : String) :
    Except CatalogFault (List ForeignKey) :=
  ((database.declaredKeys places name).reverse.mapM (database.resolveKey places)).map fun keys =>
    match database.text? places name with
    | none => []
    | some text => arrange (KeyText.signatures text) keys.eraseDups

/-! ### Statements -/

/-- The database with one more table, unless a table has its name. -/
def add (database : Database) (table : Definition) : Database :=
  if (database.tableIn? table.name table.place).isSome then database
  else ⟨database.tables ++ [table]⟩

/-- The table that a query reads under a name.  Temporary tables come first there. -/
def lookup (database : Database) : Selection.Lookup := fun schema? name =>
  let places := if schema?.isSome then Place.ofSchema schema? else [.temporary, .main]
  (database.find? places name).map fun table =>
    ⟨some table.place, table.columns, table.hasRowNumbers⟩

/-- The database after a statement. -/
def run (database : Database) (statement : String) : Database :=
  match Definition.ofStatement? database.lookup statement with
  | none => database
  | some table =>
      if table.isNumbered && (database.tableIn? table.name table.place).isNone then
        (database.add table).add (sequenceTable table.place)
      else database.add table

/-- The database after statements. -/
def ofStatements (statements : List String) : Database :=
  statements.foldl run empty

/-! ### Laws -/

theorem columns_of_missing {database : Database} {places : List Place} {name : String}
    (missing : database.find? places name = none) :
    database.columns places name = .error (.missingTable name) := by
  simp [columns, missing]

theorem find?_of_table {database : Database} {places : List Place} {name : String}
    {table : Definition} (found : places.findSome? (database.tableIn? name) = some table) :
    database.find? places name = some table := by
  simp [find?, found]

theorem arrange_perm (signatures : List (List String)) (keys : List ForeignKey) :
    (arrange signatures keys).Perm keys := by
  induction signatures generalizing keys with
  | nil => exact .refl _
  | cons signature signatures ih =>
    rw [arrange]
    split
    · rename_i key found
      exact ((ih _).cons key).trans (List.perm_cons_erase (List.mem_of_find?_eq_some found)).symm
    · exact ih keys

theorem add_of_taken {database : Database} {table other : Definition}
    (taken : database.tableIn? table.name table.place = some other) :
    database.add table = database := by
  simp [add, taken]

end Database
end TableExport
