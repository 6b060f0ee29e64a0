import TableExport.Table.TypeName

/-! # Tables and their columns

What is known of the table to export: its columns with their types.  A column's `shape` says how
its values are turned into text: nested and geographic types first, then everything of the text
class, then moments in time. -/

namespace TableExport

/-- A column of a table.  The type is a bare type name. -/
structure Column where
  name : String
  type : String
  base : BaseType
  nullable : Bool
  deriving DecidableEq, Repr

/-- The column with a type given by any of its spellings; the class is derived from the type. -/
def Column.ofTypeText (name type : String) (nullable : Bool) : Column :=
  ⟨name, TypeName.bare type, BaseType.ofTypeName type, nullable⟩

/-- A table with its columns in order. -/
structure Table where
  name : String
  columns : List Column
  deriving DecidableEq, Repr

/-- The names of the columns in order. -/
def Table.columnNames (table : Table) : List String :=
  table.columns.map Column.name

/-- The first column with a name. -/
def Table.column? (table : Table) (name : String) : Option Column :=
  table.columns.find? (·.name = name)

/-- How the values of a column are turned into text. -/
inductive Shape
  | array
  | geography
  | document
  | text
  | moment
  | plain
  deriving DecidableEq, Repr

/-- The shape of a column. -/
def Column.shape (column : Column) : Shape :=
  if column.type = "ARRAY" then .array
  else if column.type = "GEOGRAPHY" then .geography
  else if column.type = "JSON" ∨ column.type = "STRUCT" then .document
  else if column.base = .string then .text
  else if column.type = "TIME" ∨ column.type = "TIMESTAMP" ∨ column.type = "DATETIME" then .moment
  else .plain

theorem Table.column?_name {table : Table} {name : String} {column : Column}
    (h : table.column? name = some column) : column.name = name := by
  simpa using List.find?_some h

theorem Table.column?_isSome_iff (table : Table) (name : String) :
    (table.column? name).isSome ↔ name ∈ table.columnNames := by
  simp [Table.column?, Table.columnNames]

end TableExport
