import TableExport.Table.Definition.Parts

/-! # Places of a database -/

namespace TableExport

/-- Where a database keeps a table. -/
inductive Place
  | main
  | temporary
  deriving DecidableEq, Repr

namespace Place

/-- The place that a name stands for. -/
def ofName? (name : String) : Option Place :=
  if Definition.sameName name "main" then some .main
  else if Definition.sameName name "temp" then some .temporary
  else none

/-- The places that the name of a schema stands for: without one, all. -/
def ofSchema (schema? : Option String) : List Place :=
  match schema? with
  | none => [.main, .temporary]
  | some schema => (ofName? schema).toList

end Place
end TableExport
