import TableExport.Table.Basic
import TableExport.Table.Catalog.Fault

/-! # Tables as database catalogs report them

A catalog reports the columns of a table with generic types, which come in families: many spellings
for one kind of value.  `CatalogType.typeName` is the type name of a family; a type outside the
families keeps its own spelling.  `CatalogTable.toTable` is the table that a report describes.

Main statement: a report is without fault if and only if every column has a name, and no two have
the same (`fault?_eq_none_iff`). -/

namespace TableExport

/-- A generic column type. -/
inductive CatalogType
  | array
  | json
  | boolean
  | integer
  | float
  | numeric
  | text
  | dateTime (zoned : Bool)
  | date
  | time
  | binary
  | untyped
  | other (spelling : String)
  deriving DecidableEq, Repr

namespace CatalogType

/-- The type name of a generic type. -/
def typeName : CatalogType → String
  | .array => "ARRAY"
  | .json => "JSON"
  | .boolean => "BOOL"
  | .integer => "INT64"
  | .float => "FLOAT64"
  | .numeric => "NUMERIC"
  | .text => "STRING"
  | .dateTime zoned => if zoned then "TIMESTAMP" else "DATETIME"
  | .date => "DATE"
  | .time => "TIME"
  | .binary => "BYTES"
  | .untyped => "STRING"
  | .other spelling => spelling

/-- The families of generic types with the names of their members.  Types with a date and a time
of day differ in whether they have a time zone. -/
def families (zoned : Bool) : List (List String × CatalogType) :=
  [(["ARRAY"], .array),
    (["JSON"], .json),
    (["Boolean", "MatchType", "BOOLEAN"], .boolean),
    (["Integer", "SmallInteger", "BigInteger", "INTEGER", "INT", "SMALLINT", "BIGINT"], .integer),
    (["Float", "Double", "FLOAT", "REAL", "DOUBLE", "DOUBLE_PRECISION"], .float),
    (["Numeric", "NUMERIC", "DECIMAL"], .numeric),
    (["String", "Text", "Unicode", "UnicodeText", "Enum", "CHAR", "VARCHAR", "NCHAR", "NVARCHAR",
      "TEXT", "CLOB"], .text),
    (["DateTime", "DATETIME", "TIMESTAMP"], .dateTime zoned),
    (["Date", "DATE"], .date),
    (["Time", "TIME"], .time),
    (["LargeBinary", "BLOB"], .binary),
    (["NullType"], .untyped),
    (["Interval"], .other "DATETIME"),
    (["PickleType"], .other "BLOB"),
    (["Uuid"], .other "CHAR(32)")]

/-- The spelling of a type with a length.  A length of zero is none. -/
def spelling (name : String) (length : Int) : String :=
  if length = 0 then name else name ++ "(" ++ length.repr ++ ")"

/-- The type of arrays of items.  The items are no arrays, since one array has all dimensions. -/
def arrayOf (item : CatalogType) : Except CatalogFault CatalogType :=
  if item = .array then .error .nestedArray else .ok .array

/-- The generic type with a name.  A length shows in the spelling of a type outside the families,
and a time zone in types with a date and a time of day. -/
def ofName (name : String) (length : Int) (zoned : Bool) : CatalogType :=
  match (families zoned).find? fun family => family.1.contains name with
  | some family => family.2
  | none => .other (spelling name length)

end CatalogType

/-- A column as a catalog reports it.  Whether it may be null can be left open. -/
structure CatalogColumn where
  name : String
  type : CatalogType
  nullable? : Option Bool
  primaryKey : Bool
  deriving DecidableEq, Repr

/-- A column may be null if the catalog says so, or says nothing and it is no primary key. -/
def CatalogColumn.isNullable (column : CatalogColumn) : Bool :=
  column.nullable?.getD (!column.primaryKey)

/-- A table as a catalog reports it. -/
structure CatalogTable where
  name : String
  columns : List CatalogColumn
  deriving DecidableEq, Repr

namespace CatalogTable

/-- The names of the columns. -/
def columnNames (report : CatalogTable) : List String :=
  report.columns.map CatalogColumn.name

/-- The first fault among names of columns of a table, after columns with other names. -/
def nameFault? (table : String) : List String → List String → Option CatalogFault
  | _, [] => none
  | taken, name :: rest =>
      if name = "" then some .unnamedColumn
      else if name ∈ taken then some (.repeatedColumn table name)
      else nameFault? table (name :: taken) rest

/-- The first fault of a report. -/
def fault? (report : CatalogTable) : Option CatalogFault :=
  nameFault? report.name [] report.columnNames

/-- The table that a report describes. -/
def toTable (report : CatalogTable) : Table :=
  ⟨report.name, report.columns.map fun column =>
    .ofTypeText column.name column.type.typeName column.isNullable⟩

/-! ### Laws -/

theorem nameFault?_eq_none_iff {table : String} {taken names : List String} :
    nameFault? table taken names = none ↔
      "" ∉ names ∧ names.Nodup ∧ ∀ name ∈ names, name ∉ taken := by
  induction names generalizing taken with
  | nil => simp [nameFault?]
  | cons name names ih =>
    rw [nameFault?]
    by_cases empty : name = ""
    · simp [empty]
    · by_cases repeated : name ∈ taken
      · simp [empty, repeated]
      · simp only [empty, repeated, if_false, ih, List.mem_cons, List.nodup_cons, not_or]
        grind

theorem fault?_eq_none_iff {report : CatalogTable} :
    report.fault? = none ↔ "" ∉ report.columnNames ∧ report.columnNames.Nodup := by
  simp [fault?, nameFault?_eq_none_iff]

end CatalogTable
end TableExport
