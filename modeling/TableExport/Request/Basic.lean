/-! # Export requests

A request names the table to export, the columns to project, the filters that rows pass, the order
of rows, a limit, and the window of change times.  Literals are texts here; a filter's data type
says how its literals are read when the request is compiled. -/

namespace TableExport

/-- How a column is compared or sorted. -/
inductive DataType
  | string
  | integer
  | double
  | bigint
  | real
  | decimal
  | boolean
  | date
  | timestamp
  deriving DecidableEq, Repr

/-- The names of the data types. -/
def DataType.names : List (String × DataType) :=
  [("STRING", .string), ("INTEGER", .integer), ("DOUBLE", .double), ("BIGINT", .bigint),
    ("REAL", .real), ("DECIMAL", .decimal), ("BOOLEAN", .boolean), ("DATE", .date),
    ("TIMESTAMP", .timestamp)]

/-- The name of a data type. -/
def DataType.name : DataType → String
  | .string => "STRING"
  | .integer => "INTEGER"
  | .double => "DOUBLE"
  | .bigint => "BIGINT"
  | .real => "REAL"
  | .decimal => "DECIMAL"
  | .boolean => "BOOLEAN"
  | .date => "DATE"
  | .timestamp => "TIMESTAMP"

theorem DataType.lookup_name (type : DataType) : DataType.names.lookup type.name = some type := by
  cases type <;> decide

/-- How a filter compares a column with its literals. -/
inductive Operator
  | eq
  | ne
  | gt
  | ge
  | lt
  | le
  deriving DecidableEq, Repr

/-- The names of the operators. -/
def Operator.names : List (String × Operator) :=
  [("eq", .eq), ("ne", .ne), ("gt", .gt), ("ge", .ge), ("lt", .lt), ("le", .le)]

/-- The name of an operator. -/
def Operator.name : Operator → String
  | .eq => "eq"
  | .ne => "ne"
  | .gt => "gt"
  | .ge => "ge"
  | .lt => "lt"
  | .le => "le"

theorem Operator.lookup_name (operator : Operator) :
    Operator.names.lookup operator.name = some operator := by
  cases operator <;> decide

/-- The direction of a sort key. -/
inductive Direction
  | ascending
  | descending
  deriving DecidableEq, Repr

/-- The names of the directions. -/
def Direction.names : List (String × Direction) :=
  [("ASC", .ascending), ("DESC", .descending)]

/-- The name of a direction. -/
def Direction.name : Direction → String
  | .ascending => "ASC"
  | .descending => "DESC"

theorem Direction.lookup_name (direction : Direction) :
    Direction.names.lookup direction.name = some direction := by
  cases direction <;> decide

/-- A condition on one column, with one or more literals. -/
structure Filter where
  column : String
  operator : Operator
  literal : String
  moreLiterals : List String
  type : DataType
  deriving DecidableEq, Repr

/-- All literals of a filter. -/
def Filter.literals (filter : Filter) : List String :=
  filter.literal :: filter.moreLiterals

/-- A filter with several literals tests membership in a set. -/
def Filter.hasSeveral (filter : Filter) : Bool :=
  !filter.moreLiterals.isEmpty

/-- A column to sort by. -/
structure SortKey where
  column : String
  type : DataType
  direction : Direction
  deriving DecidableEq, Repr

/-- A request to export a table.  No columns means all of them, a limit below one means none, and
an empty bound leaves its side of the change window open. -/
structure Request where
  table : String
  dataset : Option String
  columns : List String
  filters : List Filter
  order : List SortKey
  limit : Int
  changedSince : String
  changedUntil : String
  truncate : Bool
  deriving DecidableEq, Repr

end TableExport
