import TableExport.Query.Fault
import TableExport.Sql.Dialect

/-! # Settings

The settings of a compilation: the budget of characters for values that are cut, and the dialect of
the text.  A budget is positive, which is part of its type. -/

namespace TableExport

/-- The settings of a compilation. -/
structure Settings where
  budget : Nat
  dialect : Sql.Dialect
  budget_pos : 0 < budget
  deriving DecidableEq, Repr

/-- Why settings are refused. -/
inductive SettingsFault
  | budgetNotPositive (budget : Int)
  | budgetTooLong
  | unknownDialect (name : String)
  deriving DecidableEq, Repr

/-- The wording of a fault. -/
def SettingsFault.message : SettingsFault → String
  | .budgetNotPositive budget =>
      "truncate_size must be a positive integer, got " ++ budget.repr ++ "."
  | .budgetTooLong => Fault.integerTooLong.message
  | .unknownDialect name =>
      "Unsupported dialect target: '" ++ name ++ "'. Supported targets: ["
        ++ Text.quoted Sql.Dialect.bigquery.name ++ "]."

namespace Settings

/-- The budget when none is given. -/
def defaultBudget : Nat := 16384

/-- The settings when none are given. -/
def standard : Settings :=
  ⟨defaultBudget, .bigquery, by decide⟩

/-- The settings with a budget and a dialect given by its name. -/
def make? (budget : Int) (dialect : String) : Except SettingsFault Settings :=
  if h : 0 < budget then
    if dialect = Sql.Dialect.bigquery.name then
      .ok ⟨budget.toNat, .bigquery, by omega⟩
    else .error (.unknownDialect dialect)
  else if (Numeral.write? budget).isNone then .error .budgetTooLong
  else .error (.budgetNotPositive budget)

end Settings
end TableExport
