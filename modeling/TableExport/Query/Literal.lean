import TableExport.Number.Decimal
import TableExport.Query.Fault
import TableExport.Query.Parameter
import TableExport.Text.Blank

/-! # Literals

The literals of filters are texts; a data type says how they are read.  Integers are an optional
sign and up to `Numeral.digitLimit` ASCII digits, reals are decimal literals within the finite
range of binary64, both with blanks around them.  Literals of all other types are bound as they
are. -/

namespace TableExport

namespace Literal

/-- The integer that a literal denotes. -/
def integer? (text : String) : Option Int :=
  let (negative, digits) := Numeral.splitSign (Text.trim text.toList)
  if digits ≠ [] ∧ digits.all Char.isDigit ∧ digits.length ≤ Numeral.digitLimit then
    some (Numeral.signed negative (Numeral.ofDigits digits))
  else none

/-- The number that a literal denotes, rounded to binary64. -/
def real? (text : String) : Option Binary64 :=
  (Decimal.read? (Text.trim text.toList)).bind Decimal.toBinary64?

/-- The value that a literal denotes as a data type. -/
def value? : DataType → String → Option Scalar
  | .integer, text => (integer? text).map .integer
  | .bigint, text => (integer? text).map .integer
  | .real, text => (real? text).map .real
  | .double, text => (real? text).map .real
  | .decimal, text => (real? text).map .real
  | .string, text => some (.text text)
  | .boolean, text => some (.text text)
  | .date, text => some (.text text)
  | .timestamp, text => some (.text text)

/-- The value that a literal for a column denotes, or the fault that it is malformed. -/
def value (type : DataType) (column : Option String) (text : String) : Except Fault Scalar :=
  match value? type text with
  | some scalar => .ok scalar
  | none => .error (.malformedLiteral text (.data type) column)

/-- The values of several literals in order, or the fault of the first malformed one. -/
def values (type : DataType) (column : Option String) : List String → Except Fault (List Scalar)
  | [] => .ok []
  | text :: rest =>
      match value type column text with
      | .error fault => .error fault
      | .ok scalar => (values type column rest).map (scalar :: ·)

end Literal

/-- The declared type of a single value of a data type. -/
def DataType.parameterType : DataType → ParameterType
  | .string => .string
  | .integer => .int64
  | .bigint => .int64
  | .real => .float64
  | .double => .float64
  | .decimal => .float64
  | .boolean => .bool
  | .date => .date
  | .timestamp => .timestamp

end TableExport
