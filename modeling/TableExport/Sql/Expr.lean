import TableExport.Sql.Identifier

/-! # SQL expressions

The expressions of an export statement: references to columns, casts that yield null instead of
failing, and the functions that turn a value into text, cut it, and tell whether it was cut. -/

namespace TableExport.Sql

/-- The types a column can be cast to. -/
inductive CastType
  | int64
  | float64
  | numeric
  | bool
  | date
  | timestamp
  deriving DecidableEq, Repr

/-- The name of a type. -/
def CastType.name : CastType → String
  | .int64 => "INT64"
  | .float64 => "FLOAT64"
  | .numeric => "NUMERIC"
  | .bool => "BOOL"
  | .date => "DATE"
  | .timestamp => "TIMESTAMP"

/-- An expression. -/
inductive Expr
  /-- An expression given as text. -/
  | raw (sql : String)
  /-- A qualified identifier. -/
  | reference (parts : List String)
  /-- The operand as a type, or null if it is not a value of that type. -/
  | safeCast (operand : Expr) (type : CastType)
  /-- The operand as text. -/
  | asText (operand : Expr)
  /-- The operand as JSON text. -/
  | asJson (operand : Expr)
  /-- The operand, a geographic value, as JSON text. -/
  | asGeoJson (operand : Expr)
  /-- The first characters of the operand. -/
  | cut (operand : Expr) (budget : Int)
  /-- The value, or null if the subject is an empty array. -/
  | unlessEmpty (subject value : Expr)
  /-- The value, or null if the subject is null. -/
  | unlessNull (subject value : Expr)
  /-- One if the operand has more characters than the budget, and otherwise zero. -/
  | isLonger (operand : Expr) (budget : Int)
  /-- The constant zero. -/
  | zero
  deriving DecidableEq, Repr

/-- The text of an expression. -/
def Expr.render : Expr → String
  | .raw sql => sql
  | .reference parts => qualified parts
  | .safeCast operand type => "SAFE_CAST(" ++ operand.render ++ " AS " ++ type.name ++ ")"
  | .asText operand => "CAST(" ++ operand.render ++ " as STRING)"
  | .asJson operand => "TO_JSON_STRING(" ++ operand.render ++ ")"
  | .asGeoJson operand => "ST_ASGEOJSON(" ++ operand.render ++ ")"
  | .cut operand budget => "SUBSTRING(" ++ operand.render ++ ", 0, " ++ budget.repr ++ ")"
  | .unlessEmpty subject value =>
      "IF(ARRAY_LENGTH(" ++ subject.render ++ ") = 0, NULL, " ++ value.render ++ ")"
  | .unlessNull subject value =>
      "IF(" ++ subject.render ++ " IS NULL, NULL, " ++ value.render ++ ")"
  | .isLonger operand budget =>
      "(CASE WHEN LENGTH(" ++ operand.render ++ ") > " ++ budget.repr ++ " THEN 1 ELSE 0 END)"
  | .zero => "0"

end TableExport.Sql
