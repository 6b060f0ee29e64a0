import TableExport.Number.Binary64

/-! # JSON values

A JSON value keeps apart what the text keeps apart: integers of any size, numbers with a fraction
or an exponent (as binary64), and the numbers that binary64 cannot hold finitely. -/

namespace TableExport.Json

/-- A JSON value.  The members of an object stand in order of arrival, each name once. -/
inductive Value
  | null
  | bool (value : Bool)
  | integer (value : Int)
  | real (value : Binary64)
  | nonFinite
  | text (value : String)
  | list (items : List Value)
  | object (members : List (String × Value))

end TableExport.Json
