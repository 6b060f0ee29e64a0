import TableExport.Text.Blank
import TableExport.Text.UpperCase

/-! # Names of column types

Column types are named by text with letters of either case, blanks, and parameters in brackets, as
in `numeric(38, 9)`.  `TypeName.bare` is the bare name in capitals; the name `RECORD` stands for
`STRUCT`.  `BaseType.ofTypeName` sorts types into seven coarse classes, of which text is the one
for every type without a class of its own. -/

namespace TableExport

/-- The bare name of a type, in capitals and without parameters. -/
def TypeName.bare (text : String) : String :=
  let capitals := Text.upper (Text.trim text.toList)
  let head := (capitals.takeWhile (· ≠ '<')).takeWhile (· ≠ '(')
  let name := String.ofList (Text.trim head)
  if name = "RECORD" then "STRUCT" else name

/-- A coarse class of column types. -/
inductive BaseType
  | string
  | integer
  | numeric
  | float
  | boolean
  | date
  | timestamp
  deriving DecidableEq, Repr

namespace BaseType

/-- The names of the classes. -/
def names : List (String × BaseType) :=
  [("STRING", .string), ("INTEGER", .integer), ("NUMERIC", .numeric), ("FLOAT", .float),
    ("BOOLEAN", .boolean), ("DATE", .date), ("TIMESTAMP", .timestamp)]

/-- The name of a class. -/
def name : BaseType → String
  | .string => "STRING"
  | .integer => "INTEGER"
  | .numeric => "NUMERIC"
  | .float => "FLOAT"
  | .boolean => "BOOLEAN"
  | .date => "DATE"
  | .timestamp => "TIMESTAMP"

theorem lookup_name (base : BaseType) : names.lookup base.name = some base := by
  cases base <;> decide

/-- The types of fixed size, by class. -/
def ofBareName : List (String × BaseType) :=
  [("INT64", .integer), ("INT", .integer), ("SMALLINT", .integer), ("INTEGER", .integer),
    ("BIGINT", .integer), ("TINYINT", .integer), ("BYTEINT", .integer),
    ("NUMERIC", .numeric), ("DECIMAL", .numeric), ("BIGNUMERIC", .numeric),
    ("BIGDECIMAL", .numeric), ("FLOAT64", .float), ("FLOAT", .float), ("BOOL", .boolean),
    ("BOOLEAN", .boolean), ("DATE", .date), ("DATETIME", .timestamp), ("TIMESTAMP", .timestamp)]

/-- The class of a type. -/
def ofTypeName (text : String) : BaseType :=
  (ofBareName.lookup (TypeName.bare text)).getD .string

end BaseType
end TableExport
