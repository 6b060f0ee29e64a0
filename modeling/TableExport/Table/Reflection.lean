import TableExport.Table.Database

/-! # Reflecting tables

A table is reflected together with its parents, and theirs, each name once.  Columns are met table
by table, and foreign keys after the parent they refer to.  A foreign key links columns to columns
of a parent.  Where a linked column has no type of its own, it takes the type of the column that it
is linked to, as soon as both are known; with it, columns that are linked to it and still have no
type take it too, but not those that are linked to these.

`Database.reflect` is the table with the types that result, or the first thing that is wrong.

Main statements: a table that is not there is reported by its name (`reflect_of_missing`), a key is
refused if and only if its columns do not pair up (`addKey_eq_error_iff`), and a column with a type
keeps it (`give_of_typed`). -/

namespace TableExport

/-- A column, by the names of its table and itself. -/
structure ColumnName where
  table : String
  column : String
  deriving DecidableEq, Repr

/-- A link from a column to one that a foreign key refers to. -/
structure Link where
  source : ColumnName
  target : ColumnName
  deriving DecidableEq, Repr

/-- What is known so far: the columns that were met, in order, and the links. -/
structure Reflection where
  columns : List (ColumnName × CatalogColumn)
  links : List Link
  deriving DecidableEq, Repr

namespace Reflection

/-- Nothing is known. -/
def empty : Reflection := ⟨[], []⟩

/-- The columns of a table. -/
def columnsOf (known : Reflection) (table : String) : List CatalogColumn :=
  (known.columns.filter fun entry => entry.1.table = table).map Prod.snd

/-! ### Types -/

/-- A column with a type, unless it has one. -/
def give (type : CatalogType) (column : CatalogColumn) : CatalogColumn :=
  if column.type = .untyped then { column with type } else column

/-- One of the columns is given a type. -/
def giveTo (name : ColumnName) (type : CatalogType) (known : Reflection) : Reflection :=
  { known with
    columns := known.columns.map fun entry =>
      if entry.1 = name then (entry.1, give type entry.2) else entry }

/-- The sources of the links to a column, in the order of the links. -/
def sourcesOf (known : Reflection) (target : ColumnName) : List ColumnName :=
  (known.links.filter fun link => link.target = target).map Link.source

/-- A linked column is given the type of its target, and so are the columns linked to it. -/
def resolve (type : CatalogType) (known : Reflection) (source : ColumnName) : Reflection :=
  (known.sourcesOf source).foldl (fun known name => known.giveTo name type)
    (known.giveTo source type)

/-! ### Columns and links -/

/-- One more column of a table; the links to it are resolved. -/
def addColumn (table : String) (known : Reflection) (column : CatalogColumn) : Reflection :=
  let name : ColumnName := ⟨table, column.name⟩
  (known.sourcesOf name).foldl (resolve column.type)
    { known with columns := known.columns ++ [(name, column)] }

/-- One more link; it is resolved if its target is known. -/
def addLink (known : Reflection) (link : Link) : Reflection :=
  let resolved :=
    match known.columns.lookup link.target with
    | some column => known.resolve column.type link.source
    | none => known
  { resolved with links := resolved.links ++ [link] }

/-- One more foreign key of a table.  A key of columns that the table does not have is left out. -/
def addKey (known : Reflection) (table : String) (key : ForeignKey) :
    Except CatalogFault Reflection :=
  let sources := key.columns.map (ColumnName.mk table)
  let targets := key.parentColumns.map (ColumnName.mk key.parent)
  if sources.length ≠ targets.length then .error .unpairedKey
  else if sources.all fun name => (known.columns.lookup name).isSome then
    .ok ((sources.zipWith Link.mk targets).foldl addLink known)
  else .ok known

end Reflection

namespace Database

/-! ### Tables and their parents -/

/-- A step of reflecting: to meet a table, or to add one of its foreign keys. -/
inductive Task
  | meet (table : String)
  | link (table : String) (key : ForeignKey)
  deriving DecidableEq, Repr

/-- The columns of a table and its foreign keys, or the first fault among columns, keys, and names of
columns. -/
def read (database : Database) (places : List Place) (table : String) :
    Except CatalogFault (List CatalogColumn × List ForeignKey) := do
  let columns ← database.columns places table
  let keys ← database.foreignKeys places table
  match CatalogTable.fault? ⟨table, columns⟩ with
  | some fault => .error fault
  | none => .ok (columns, keys)

/-- What follows on the columns of a table: each foreign key, after its parent. -/
def tasksAfter (table : String) (keys : List ForeignKey) : List Task :=
  keys.flatMap fun key => [.meet key.parent, .link table key]

/-- The names other than a given one. -/
def others (name : String) (names : List String) : List String :=
  names.filter (· ≠ name)

theorem length_others_lt {name : String} {names : List String} (h : name ∈ names) :
    (others name names).length < names.length :=
  List.length_filter_lt_length_iff_exists.2 ⟨name, h, by simp⟩

/-- What is known after tasks.  A table is met once: `unmet` holds the names that remain. -/
def perform (database : Database) (places : List Place) (unmet : List String) (tasks : List Task)
    (known : Reflection) : Except CatalogFault Reflection :=
  match tasks with
  | [] => .ok known
  | .meet table :: rest =>
      if _new : table ∈ unmet then
        match database.read places table with
        | .error fault => .error fault
        | .ok (columns, keys) =>
            perform database places (others table unmet) (tasksAfter table keys ++ rest)
              (columns.foldl (Reflection.addColumn table) known)
      else perform database places unmet rest known
  | .link table key :: rest =>
      match known.addKey table key with
      | .error fault => .error fault
      | .ok known => perform database places unmet rest known
termination_by (unmet.length, tasks.length)
decreasing_by
  · exact Prod.Lex.left _ _ (length_others_lt _new)
  · exact Prod.Lex.right _ (by simp)
  · exact Prod.Lex.right _ (by simp)

/-- All names of parents in a database. -/
def parents (database : Database) : List String :=
  database.tables.flatMap fun table => table.foreignKeys.map ForeignKey.parent

/-- The table with a name, under that very spelling. -/
def reflect (database : Database) (places : List Place) (name : String) :
    Except CatalogFault Table :=
  (database.perform places (name :: database.parents) [.meet name] .empty).map fun known =>
    CatalogTable.toTable ⟨name, known.columnsOf name⟩

end Database

/-! ### Laws -/

theorem Reflection.give_of_typed {type : CatalogType} {column : CatalogColumn}
    (typed : column.type ≠ .untyped) : give type column = column := by
  simp [give, typed]

theorem Reflection.name_give (type : CatalogType) (column : CatalogColumn) :
    (give type column).name = column.name := by
  unfold give
  split <;> rfl

theorem Reflection.addKey_eq_error_iff {known : Reflection} {table : String} {key : ForeignKey}
    {fault : CatalogFault} :
    known.addKey table key = .error fault ↔
      key.columns.length ≠ key.parentColumns.length ∧ fault = .unpairedKey := by
  by_cases paired : key.columns.length = key.parentColumns.length
  · simp only [addKey, List.length_map, paired]
    split
    · contradiction
    · split <;> simp
  · simp [addKey, paired, eq_comm]

theorem Database.reflect_of_missing {database : Database} {places : List Place} {name : String}
    (missing : database.find? places name = none) :
    database.reflect places name = .error (.missingTable name) := by
  simp [reflect, perform, read, columns_of_missing missing, bind, Except.bind, Except.map]

end TableExport
