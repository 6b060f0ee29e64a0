import TableExport.Table.Definition.Parts

/-! # Foreign keys

A foreign key says that some columns of a table refer to columns of a parent table.  A column can
declare its own, and the table can declare one for several columns. -/

namespace TableExport

/-- A foreign key.  If it names no columns of the parent, it refers to the primary key there. -/
structure ForeignKey where
  columns : List String
  parent : String
  parentColumns : List String
  deriving DecidableEq, Repr

namespace ForeignKey

/-- All names of a key in a row. -/
def signature (key : ForeignKey) : List String :=
  key.columns ++ key.parent :: key.parentColumns

open Definition (Token namesInBrackets)

/-- The keys that tokens declare for columns, or for others that they name. -/
def ofTokens (columns : List String) : List Token → List ForeignKey
  | [] => []
  | token :: rest =>
      match token.keyword?, rest.head?.bind Token.name? with
      | some "FOREIGN", _ => ofTokens (namesInBrackets rest.tail) rest
      | some "REFERENCES", some parent =>
          ⟨columns, parent, namesInBrackets rest.tail⟩ :: ofTokens columns rest
      | _, _ => ofTokens columns rest

end ForeignKey
end TableExport
