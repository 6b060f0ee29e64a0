import TableExport.Query.Fault
import TableExport.Sql.Expr
import TableExport.Table.Basic

/-! # Excerpts of large values

A value that may be large is exported as an excerpt: its text, cut to a budget of characters, and a
flag that tells whether something was cut off.  How a value becomes text depends on the shape of its
column.  Moments and plain values are short; they are never cut, and their flag is zero. -/

namespace TableExport

/-- The two expressions that stand for one column. -/
structure Excerpt where
  value : Sql.Expr
  flag : Sql.Expr
  deriving DecidableEq, Repr

/-- Values of this shape are cut. -/
def Shape.isCut : Shape → Bool
  | .array => true
  | .geography => true
  | .document => true
  | .text => true
  | .moment => false
  | .plain => false

namespace Excerpt

/-- The text of a value of a shape that is cut. -/
def serialized (shape : Shape) (column : Sql.Expr) : Sql.Expr :=
  match shape with
  | .array => .asJson column
  | .geography => .asGeoJson column
  | .document => .asJson column
  | .text => .asText column
  | .moment => column
  | .plain => .asText column

/-- The excerpt of a column of a shape. -/
def ofShape (shape : Shape) (column : Sql.Expr) (budget : Int) : Excerpt :=
  let text := serialized shape column
  match shape with
  | .array => ⟨.unlessEmpty column (.cut text budget), .isLonger text budget⟩
  | .geography => ⟨.unlessNull column (.cut text budget), .isLonger text budget⟩
  | .document => ⟨.unlessNull column (.cut text budget), .isLonger text budget⟩
  | .text => ⟨.cut text budget, .isLonger text budget⟩
  | .moment => ⟨text, .zero⟩
  | .plain => ⟨text, .zero⟩

/-- The excerpt of a column of a shape, unless the budget that it mentions is too long to write. -/
def ofShape? (shape : Shape) (column : Sql.Expr) (budget : Int) : Except Fault Excerpt :=
  if shape.isCut && (Numeral.write? budget).isNone then .error .integerTooLong
  else .ok (ofShape shape column budget)

end Excerpt
end TableExport
