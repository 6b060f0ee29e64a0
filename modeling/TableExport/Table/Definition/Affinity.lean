/-! # Affinities

A column prefers one kind of value: its affinity.  A declared type decides it by what it contains, in
any ASCII letter case.  A table that a query fills keeps of a type only the affinity, under a short
name.

Main statement: the short name of an affinity declares it (`ofText_typeText`). -/

namespace TableExport

/-- The kind of value that a column prefers. -/
inductive Affinity
  | untyped
  | integer
  | text
  | real
  | numeric
  deriving DecidableEq, Repr

namespace Affinity

/-- A text contains another one. -/
def contains (part : List Char) : List Char → Bool
  | [] => part.isEmpty
  | c :: rest => part.isPrefixOf (c :: rest) || contains part rest

/-- The affinity that a text declares. -/
def ofText (text : List Char) : Affinity :=
  let has (part : String) : Bool := contains part.toList (text.map Char.toUpper)
  if has "INT" then .integer
  else if has "CHAR" || has "CLOB" || has "TEXT" then .text
  else if has "BLOB" then .untyped
  else if has "REAL" || has "FLOA" || has "DOUB" then .real
  else .numeric

/-- The short name of an affinity; without a kind of value it is empty. -/
def typeText : Affinity → List Char
  | untyped => []
  | integer => "INT".toList
  | text => "TEXT".toList
  | real => "REAL".toList
  | numeric => "NUM".toList

/-! ### Laws -/

theorem ofText_typeText {affinity : Affinity} (typed : affinity ≠ untyped) :
    ofText affinity.typeText = affinity := by
  cases affinity
  · contradiction
  all_goals decide

theorem ofText_nil : ofText [] = numeric := by decide

end Affinity
end TableExport
