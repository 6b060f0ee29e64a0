import TableExport.Sql.Expr
import TableExport.Request.Basic
import TableExport.Table.Basic

/-! # Typed views of columns

To compare or sort a column as a data type is to use an expression of that type.  The default is a
cast, which is left out where the table is known to store the column in the type's class already.
Other ways to convert are functions of the same type (`Converter`), which may refuse. -/

namespace TableExport

/-- The expression for a column of a table as a data type, or the reason why there is none. -/
abbrev Converter := String → String → DataType → Except String Sql.Expr

/-- The reference to a column of a table. -/
def columnReference (table column : String) : Sql.Expr :=
  .reference [table, column]

/-- The type to which a column is cast; texts are not cast. -/
def DataType.castType? : DataType → Option Sql.CastType
  | .string => none
  | .integer => some .int64
  | .bigint => some .int64
  | .real => some .float64
  | .double => some .float64
  | .decimal => some .numeric
  | .boolean => some .bool
  | .date => some .date
  | .timestamp => some .timestamp

/-- The class whose columns need no cast. -/
def DataType.nativeBase? : DataType → Option BaseType
  | .string => none
  | .integer => some .integer
  | .bigint => some .integer
  | .real => some .float
  | .double => some .float
  | .decimal => some .numeric
  | .boolean => some .boolean
  | .date => some .date
  | .timestamp => some .timestamp

/-- The table, if it is known, stores a column in the class of a data type. -/
def isNative (table? : Option Table) (column : String) (type : DataType) : Bool :=
  match table?.bind (·.column? column) with
  | some found => some found.base = type.nativeBase?
  | none => false

/-- The expression for a column as a data type, with a cast where one is needed. -/
def typedColumn (table? : Option Table) (table column : String) (type : DataType) : Sql.Expr :=
  match type.castType? with
  | none => columnReference table column
  | some target =>
      if isNative table? column type then columnReference table column
      else .safeCast (columnReference table column) target

/-- The default converter, which never refuses. -/
def Converter.casting (table? : Option Table) : Converter := fun table column type =>
  .ok (typedColumn table? table column type)

end TableExport
