import TableExport.Table.Definition.Affinity

/-! # Columns of tables -/

namespace TableExport

/-- A column of a table in a database, with the text of its declared type and the affinity that the
declaration gives to it.  A value is required of a column that is never null, and one column can hold
the number of the row. -/
structure DefinedColumn where
  name : String
  typeText : List Char
  affinity : Affinity
  isComputed : Bool
  isRequired : Bool
  isRowNumber : Bool
  deriving DecidableEq, Repr

/-- A column that a query fills: nothing is required of its values. -/
def DefinedColumn.filled (name : String) (affinity : Affinity) : DefinedColumn :=
  ⟨name, affinity.typeText, affinity, false, false, false⟩

end TableExport
