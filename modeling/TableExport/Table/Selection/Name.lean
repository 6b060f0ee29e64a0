import TableExport.Table.Definition.DefinedColumn
import TableExport.Table.Definition.Parts
import TableExport.Text.Blank

/-! # Names of results

The columns of a result have different names.  A name that is taken gets a number behind a colon, and
the words for truth values give way to the position of the column.

Main statement: columns are named without change to their affinities (`map_affinity_numbered`). -/

namespace TableExport.Selection

open Definition (sameName)

/-- A name is one of some names. -/
def isAmong (names : List String) (name : String) : Bool :=
  names.any (sameName name)

/-- A name without a number behind a colon at its end. -/
def baseName (name : String) : String :=
  let front := Text.dropTrailing Char.isDigit name.toList
  if front.getLast? = some ':' then String.ofList front.dropLast else name

/-- The first name with a number behind a colon that is not taken, from a number on.  The bound limits
the numbers that are tried. -/
def numberedName (taken : List String) (base : String) : Nat → Nat → String
  | 0, number => base ++ ":" ++ number.repr
  | bound + 1, number =>
      let name := base ++ ":" ++ number.repr
      if isAmong taken name then numberedName taken base bound (number + 1) else name

/-- A name that is not taken. -/
def freeName (taken : List String) (name : String) : String :=
  if isAmong taken name then numberedName taken (baseName name) taken.length 1 else name

/-- The name of a column at a position.  The words for truth values name no columns. -/
def nameAt (position : Nat) (name : String) : String :=
  if isAmong ["TRUE", "FALSE"] name then "column" ++ (position + 1).repr else name

/-- Columns of a result after others with given names. -/
def numbered (taken : List String) : List DefinedColumn → List DefinedColumn
  | [] => []
  | column :: rest =>
      let name := freeName taken (nameAt taken.length column.name)
      { column with name } :: numbered (name :: taken) rest

/-! ### Laws -/

theorem map_affinity_numbered (taken : List String) (columns : List DefinedColumn) :
    (numbered taken columns).map DefinedColumn.affinity = columns.map DefinedColumn.affinity := by
  induction columns generalizing taken with
  | nil => rfl
  | cons column columns ih => simp [numbered, ih]

end TableExport.Selection
