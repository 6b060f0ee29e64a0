import TableExport.Table.Definition.DeclaredType
import TableExport.Table.Definition.ForeignKey
import TableExport.Table.Selection

/-! # Tables as SQL statements define them

A statement that creates a table names its columns with their declared types and constraints, its
primary key, and foreign keys; or it gives a query that fills the table.  `Definition.ofStatement?`
reads what a catalog can report of it.  Between brackets commas do not separate definitions, and
words are no constraints. -/

namespace TableExport

/-- What a statement defines.  Keys name columns as they are declared, and foreign keys stand in the
order of their declarations.  The rows have numbers unless they are stored by their key, and a table
can make sure that no number is used again.  The text is the statement from the name of the table
on. -/
structure Definition where
  name : String
  place : Place
  columns : List DefinedColumn
  hasRowNumbers : Bool
  isNumbered : Bool
  keyColumns : List String
  foreignKeys : List ForeignKey
  text : List Char
  deriving DecidableEq, Repr

namespace Definition

/-! ### Columns -/

/-- The words that begin a constraint of a table. -/
def tableConstraintWords : List String :=
  ["CONSTRAINT", "PRIMARY", "UNIQUE", "CHECK", "FOREIGN"]

/-- A definition is a constraint of the table. -/
def isTableConstraint (tokens : List Token) : Bool :=
  ((tokens.head?.bind Token.keyword?).map tableConstraintWords.contains).getD false

/-- A column as a statement declares it, perhaps with a type. -/
structure DeclaredColumn where
  name : String
  declared? : Option (List Char)
  isComputed : Bool
  isNotNull : Bool
  isKey : Bool
  isDescendingKey : Bool
  deriving DecidableEq, Repr

/-- The column that a definition describes, unless it is a constraint of the table. -/
def column? (tokens : List Token) : Option DeclaredColumn :=
  match tokens with
  | [] => none
  | token :: rest =>
      if isTableConstraint tokens then none
      else
        token.name?.map fun name =>
          let outside := outsideBrackets 0 rest
          { name
            declared? := DeclaredType.declared? (DeclaredType.tokensAt rest)
            isComputed := hasWords ["AS"] outside
            isNotNull := hasWords ["NOT", "NULL"] outside
            isKey := hasWords ["PRIMARY", "KEY"] outside
            isDescendingKey := hasWords ["PRIMARY", "KEY", "DESC"] outside }

/-- The columns that a primary key of the table names. -/
def keyNames (constraint : List Token) : List String :=
  ((afterFirst? ["PRIMARY", "KEY"] constraint).map namesInBrackets).getD []

/-- What a statement says of the whole table. -/
structure Options where
  keyNames : List String
  isStrict : Bool
  isKeyed : Bool
  deriving DecidableEq, Repr

/-- A column belongs to the primary key. -/
def DeclaredColumn.isInKey (options : Options) (column : DeclaredColumn) : Bool :=
  column.isKey || options.keyNames.any fun name => sameName name column.name

/-- A column is the number of its row: an integer that is the primary key on its own, unless the
table is stored by its key. -/
def DeclaredColumn.isRowNumber (options : Options) (column : DeclaredColumn) : Bool :=
  !options.isKeyed && column.isInKey options && DeclaredType.isWord "INTEGER" column.declared? &&
    if column.isKey then !column.isDescendingKey else options.keyNames.length = 1

/-- A column that a catalog reports as never null: one that is declared so, or one in the primary
key of a table that is stored by its key, or that is strict unless the column is the row number. -/
def DeclaredColumn.isRequired (options : Options) (column : DeclaredColumn) : Bool :=
  column.isNotNull ||
    (column.isInKey options &&
      (options.isKeyed || (options.isStrict && !column.isRowNumber options)))

/-- A declared column as part of a table with options. -/
def DeclaredColumn.define (options : Options) (column : DeclaredColumn) : DefinedColumn :=
  { name := column.name
    typeText := DeclaredType.text column.isComputed column.declared?
    affinity := DeclaredType.affinity options.isStrict column.declared?
    isComputed := column.isComputed
    isRequired := column.isRequired options
    isRowNumber := column.isRowNumber options }

/-! ### Keys -/

/-- A name as a column declares it, if a column has it. -/
def declaredName (columns : List DeclaredColumn) (name : String) : String :=
  ((columns.find? fun column => sameName column.name name).map DeclaredColumn.name).getD name

/-- The columns of the primary key in its order, each once. -/
def primaryKey (options : Options) (columns : List DeclaredColumn) : List String :=
  ((columns.filter DeclaredColumn.isKey).map DeclaredColumn.name
    ++ options.keyNames.map (declaredName columns)).eraseDups

/-- The foreign keys that a part declares. -/
def foreignKeysOf (columns : List DeclaredColumn) (part : List Token) : List ForeignKey :=
  let own := if isTableConstraint part then [] else (part.head?.bind Token.name?).toList
  (ForeignKey.ofTokens own part).map fun key =>
    { key with columns := key.columns.map (declaredName columns) }

/-! ### Statements -/

/-- The tokens of a statement, and what follows the last one. -/
structure Source where
  tokens : List Token
  trailing : List Char
  deriving DecidableEq, Repr

/-- The text of a statement after its definitions, as a catalog keeps it: nothing, or with options
of the table all up to the mark that ends the statement. -/
def optionsText (hasOptions : Bool) (source : Source) : List Char :=
  if hasOptions then
    let isWithin (token : Token) : Bool := token.symbol ≠ .mark ';'
    spelled (source.tokens.takeWhile isWithin) ++
      match source.tokens.dropWhile isWithin with
      | [] => source.trailing
      | token :: _ => token.gap
  else []

/-- A table without keys.  No statement spells it out. -/
def plain (place : Place) (name : String) (columns : List DefinedColumn) : Definition :=
  { name, place, columns
    hasRowNumbers := true
    isNumbered := false
    keyColumns := []
    foreignKeys := []
    text := [] }

/-- What a statement defines, from the name of the table on.  A query is given the columns of the
tables that it reads. -/
def ofName? (lookup : Selection.Lookup) (place : Place) (source : Source) : Option Definition :=
  match source.tokens with
  | name :: opening :: rest =>
      if opening.symbol = .mark '(' then
        name.name?.map fun tableName =>
          let parts := parts 0 [] rest
          let columns := parts.filterMap column?
          let (inside, after) := splitAtClosing 0 rest
          let options : Options :=
            { keyNames := (parts.filter isTableConstraint).flatMap keyNames
              isStrict := hasWords ["STRICT"] after
              isKeyed := hasWords ["WITHOUT", "ROWID"] after }
          { name := tableName, place
            columns := columns.map (DeclaredColumn.define options)
            hasRowNumbers := !options.isKeyed
            isNumbered := hasWords ["AUTOINCREMENT"] inside
            keyColumns := primaryKey options columns
            foreignKeys := parts.flatMap (foreignKeysOf columns)
            text :=
              name.lexeme ++ spelled (opening :: inside) ++
                optionsText (options.isStrict || options.isKeyed) { source with tokens := after } }
      else if opening.keyword? = some "AS" then
        name.name?.map fun tableName =>
          plain place tableName (Selection.columns lookup rest source.trailing)
      else none
  | _ => none

/-- What a statement defines after the creating words.  A name can be qualified by its place. -/
def ofQualifiedName? (lookup : Selection.Lookup) (place : Place) (source : Source) :
    Option Definition :=
  match source.tokens with
  | qualifier :: dot :: rest =>
      if dot.symbol = .mark '.' then
        qualifier.name?.bind fun qualifier =>
          ofName? lookup (if sameName qualifier "temp" then .temporary else place)
            { source with tokens := rest }
      else ofName? lookup place source
  | _ => none

/-- The table that a statement creates. -/
def ofStatement? (lookup : Selection.Lookup) (statement : String) : Option Definition := do
  let (tokens, trailing) := splitTokens statement.length statement.toList
  let created ← afterWords? ["CREATE"] (tokens.dropWhile fun token => token.symbol = .mark ';')
  let afterPlace? := (afterWords? ["TEMP"] created).orElse fun _ => afterWords? ["TEMPORARY"] created
  let named ← afterWords? ["TABLE"] (afterPlace?.getD created)
  ofQualifiedName? lookup (if afterPlace?.isSome then .temporary else .main)
    ⟨(afterWords? ["IF", "NOT", "EXISTS"] named).getD named, trailing⟩

end Definition
end TableExport
