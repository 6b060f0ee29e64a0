import TableExport.Request.Basic
import TableExport.Sql.Expr

/-! # SQL statements

An export statement selects items from one source, with conditions that all have to hold, an order
and a limit.  Parts that come from elsewhere as text are kept as they are (`raw`).  Values never
occur in a statement: a condition names the parameter that carries them. -/

namespace TableExport.Sql

/-- An item of the select list. -/
inductive SelectItem
  | raw (sql : String)
  | everything
  | plain (expr : Expr)
  | aliased (expr : Expr) (name : String)
  deriving DecidableEq, Repr

/-- The text of an item. -/
def SelectItem.render : SelectItem → String
  | .raw sql => sql
  | .everything => "*"
  | .plain expr => expr.render
  | .aliased expr name => expr.render ++ " AS " ++ identifier name

/-- The source of the rows. -/
inductive Source
  | raw (sql : String)
  | reference (parts : List String)
  deriving DecidableEq, Repr

/-- The text of a source. -/
def Source.render : Source → String
  | .raw sql => sql
  | .reference parts => qualified parts

/-- The sign of a comparison. -/
def comparisonSign : Operator → String
  | .eq => "="
  | .ne => "<>"
  | .gt => ">"
  | .ge => ">="
  | .lt => "<"
  | .le => "<="

/-- How an expression relates to a parameter: to its value, or to the elements of its array. -/
inductive Relation
  | compares (operator : Operator)
  | isMember
  | isNoMember
  deriving DecidableEq, Repr

/-- The text of a relation to a parameter. -/
def Relation.render : Relation → String → String
  | .compares operator, parameter => comparisonSign operator ++ " " ++ placeholder parameter
  | .isMember, parameter => "IN UNNEST(" ++ placeholder parameter ++ ")"
  | .isNoMember, parameter => "NOT IN UNNEST(" ++ placeholder parameter ++ ")"

/-- A condition on rows. -/
inductive Condition
  | raw (sql : String)
  | test (subject : Expr) (relation : Relation) (parameter : String)
  deriving DecidableEq, Repr

/-- The text of a condition. -/
def Condition.render : Condition → String
  | .raw sql => sql
  | .test subject relation parameter => subject.render ++ " " ++ relation.render parameter

/-- An expression to sort by, with its direction. -/
structure OrderTerm where
  expr : Expr
  direction : Direction
  deriving DecidableEq, Repr

/-- The text of an order term. -/
def OrderTerm.render (term : OrderTerm) : String :=
  term.expr.render ++ " " ++ term.direction.name

/-- A statement. -/
structure Statement where
  select : List SelectItem
  source : Source
  conditions : List Condition
  order : List OrderTerm
  limit : Option Nat
  deriving DecidableEq, Repr

namespace Statement

/-- The select list; without items it is everything. -/
def selectText : List SelectItem → String
  | [] => "*"
  | items => String.intercalate ", " (items.map SelectItem.render)

/-- The conditions: one stands bare, several stand in brackets. -/
def whereText : List Condition → String
  | [] => ""
  | [condition] => " WHERE " ++ condition.render
  | conditions =>
      " WHERE (" ++ String.intercalate ") AND (" (conditions.map Condition.render) ++ ")"

/-- The order of rows. -/
def orderText : List OrderTerm → String
  | [] => ""
  | terms => " ORDER BY " ++ String.intercalate ", " (terms.map OrderTerm.render)

/-- The limit on rows. -/
def limitText : Option Nat → String
  | none => ""
  | some rows => " LIMIT " ++ rows.repr

/-- The text of a statement. -/
def render (statement : Statement) : String :=
  "SELECT " ++ selectText statement.select ++ " FROM " ++ statement.source.render
    ++ whereText statement.conditions ++ orderText statement.order ++ limitText statement.limit

end Statement
end TableExport.Sql
