import TableExport.Number.Numeral

/-! # Faults of catalogs

What can be wrong with a table that a catalog reports, or with a parent of it, and the wording. -/

namespace TableExport

/-- Why a catalog does not report a table.  Besides what is wrong with its columns and keys, a number
among the arguments of a declared type can be too long, and a statement with a computed column can
end in something else than options. -/
inductive CatalogFault
  | nestedArray
  | unnamedColumn
  | repeatedColumn (table column : String)
  | missingTable (name : String)
  | unpairedKey
  | longArgument (digits : Nat)
  | unreadStatement (text : List Char)
  deriving DecidableEq, Repr, Inhabited

/-- The wording of a fault. -/
def CatalogFault.message : CatalogFault → String
  | .nestedArray =>
      "Do not nest ARRAY types; ARRAY(basetype) handles multi-dimensional arrays of basetype"
  | .unnamedColumn =>
      "Column must be constructed with a non-blank name or assign a non-blank .name before adding "
        ++ "to a Table."
  | .repeatedColumn table column =>
      "A column with name '" ++ column ++ "' is already present in table '" ++ table ++ "'."
  | .missingTable name => name
  | .unpairedKey =>
      "ForeignKeyConstraint number of constrained columns must match the number of "
        ++ "referenced columns."
  | .longArgument digits => Numeral.unreadMessage digits
  | .unreadStatement text => "create table not found in CREATE TABLE " ++ String.ofList text

end TableExport
