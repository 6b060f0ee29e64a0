/-! # Dialects of SQL

Statements are written in one dialect, which a query names beside its text. -/

namespace TableExport.Sql

/-- A dialect of SQL. -/
inductive Dialect
  | bigquery
  deriving DecidableEq, Repr

/-- The name of a dialect. -/
def Dialect.name : Dialect → String
  | .bigquery => "bigquery"

end TableExport.Sql
