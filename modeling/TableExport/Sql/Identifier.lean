/-! # Identifiers in SQL

An identifier stands between back-ticks; a back-tick or a backslash in it gets a backslash in
front.  A qualified identifier is a sequence of identifiers with dots between them.  A placeholder
for a bound parameter is an at sign and the parameter's name.

`readIdentifier?` reads an identifier back from the front of a text.  Main statement: it undoes the
quoting, whatever follows (`readIdentifier?_identifier`). -/

namespace TableExport.Sql

/-- The character that encloses identifiers. -/
def backTick : Char := '\x60'

/-- A character inside the enclosing back-ticks. -/
def escapedChar (c : Char) : List Char :=
  if c = '\x5c' ∨ c = backTick then ['\x5c', c] else [c]

/-- The characters of an identifier with its enclosing back-ticks. -/
def identifierChars (name : List Char) : List Char :=
  backTick :: (name.flatMap escapedChar ++ [backTick])

/-- An identifier. -/
def identifier (name : String) : String :=
  String.ofList (identifierChars name.toList)

/-- A qualified identifier. -/
def qualified (parts : List String) : String :=
  String.intercalate "." (parts.map identifier)

/-- The placeholder of a parameter. -/
def placeholder (name : String) : String :=
  "@" ++ name

/-- The name up to the closing back-tick, and what follows it. -/
def readName? : List Char → Option (List Char × List Char)
  | [] => none
  | ['\x5c'] => none
  | '\x5c' :: c :: rest => (readName? rest).map fun (name, left) => (c :: name, left)
  | c :: rest =>
      if c = backTick then some ([], rest)
      else (readName? rest).map fun (name, left) => (c :: name, left)

/-- The name of the identifier at the front of a text, and what follows it. -/
def readIdentifier? : List Char → Option (List Char × List Char)
  | [] => none
  | c :: rest => if c = backTick then readName? rest else none

/-! ### Reading undoes quoting -/

theorem readName?_escaped (name rest : List Char) :
    readName? (name.flatMap escapedChar ++ backTick :: rest) = some (name, rest) := by
  induction name with
  | nil => simp [readName?, backTick]
  | cons c name ih =>
      by_cases hb : c = '\x5c'
      · subst hb
        simp [escapedChar, readName?, ih]
      · by_cases ht : c = backTick
        · subst ht
          simp [escapedChar, readName?, ih]
        · rw [List.flatMap_cons]
          simp only [escapedChar, hb, ht, or_self, if_false, List.cons_append, List.nil_append]
          rw [readName?.eq_4 _ _ (by simp_all) (by simp_all)]
          simp [ht, ih]

theorem readIdentifier?_identifier (name rest : List Char) :
    readIdentifier? (identifierChars name ++ rest) = some (name, rest) := by
  simp [identifierChars, readIdentifier?, readName?_escaped]

end TableExport.Sql
