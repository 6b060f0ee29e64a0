import TableExport.Table.Definition.Phrase

/-! # The body of a statement

A catalog that looks for the expressions of computed columns takes the definitions of a table from
the text of its statement.  They end at a closing bracket after which nothing but options of the
table stands up to the end, with blanks and single commas before them; a comment there hides the
body (`Body.isFound`). -/

namespace TableExport.Body

open Phrase
open Text (isBlank)

/-- What follows blanks and at most one comma among them. -/
def dropSeparator (cs : List Char) : List Char :=
  match dropBlanks cs with
  | ',' :: rest => dropBlanks rest
  | rest => rest

/-- What follows an option of a table. -/
def afterOption? (cs : List Char) : Option (List Char) :=
  (afterWords? "WITHOUT" "ROWID" cs).orElse fun _ => afterWord? "STRICT".toList cs

/-- A text consists of options.  The number bounds them. -/
def isOptions : Nat → List Char → Bool
  | _, [] => true
  | 0, _ => false
  | bound + 1, cs =>
      match afterOption? (dropSeparator cs) with
      | some rest => isOptions bound rest
      | none => false

/-- Options follow a closing bracket somewhere in a text, up to its end. -/
def endsIn : List Char → Bool
  | [] => false
  | c :: rest => (c = ')' && isOptions rest.length rest) || endsIn rest

/-- The definitions of a table can be found in the text of its statement. -/
def isFound (text : List Char) : Bool :=
  endsIn (Text.dropTrailing isBlank text)

/-! ### Laws -/

theorem isOptions_nil (bound : Nat) : isOptions bound [] = true := by
  cases bound <;> rfl

theorem endsIn_append (front rest : List Char) (h : endsIn rest = true) :
    endsIn (front ++ rest) = true := by
  induction front with
  | nil => exact h
  | cons c front ih => simp [endsIn, ih]

theorem endsIn_of_getLast (front : List Char) : endsIn (front ++ [')']) = true :=
  endsIn_append front [')'] rfl

end TableExport.Body
