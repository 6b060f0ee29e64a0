import TableExport.Table.Selection.Item
import TableExport.Table.Selection.Term

/-! # Tables made from queries

A statement can fill a new table with the rows of a query.  Its columns are those of the result: a
star stands for all columns of the sources, and an expression makes a column with the name that is
given to it, the name of the column that it consists of, or its own spelling.  An inner query takes
the name of a column as it is spelled in the expression.  Of a declared type only the affinity
remains, and only for columns that are taken over as they are, for conversions, and for queries in
brackets.

Queries can be combined.  The first one names the columns of a result and types them; where a query
stands for a value, the last one does.  Named queries come before a query that reads them like
tables, but a name with a place before it is never one of theirs (`withNamed_some`).

`Selection.columns` reads a query.  Inner queries are read level by level: `Reading.next` is a query
with its inner queries one level down. -/

namespace TableExport.Selection

open Definition
  (Token parts splitAtClosing outsideBrackets sameName namesInBrackets afterWords?)

/-- The tables that a query can read, by a name and perhaps the name of a place. -/
abbrev Lookup := Option String → String → Option View

/-- What names in a query can mean: tables, and the columns of sources, inner ones first. -/
structure Context where
  lookup : Lookup
  scopes : List (List Source)

/-- What a reference means in the innermost scope that knows it. -/
def Context.meaning? (context : Context) (reference : Reference) : Option Meaning :=
  context.scopes.findSome? fun sources => Selection.meaning? sources reference

/-- How a result takes the name of a column: as it is declared, or as it is spelled. -/
inductive Naming
  | declared
  | spelled
  deriving DecidableEq, Repr

/-- Which of combined queries counts. -/
inductive Branch
  | first
  | last
  deriving DecidableEq, Repr

/-- How queries and sources in brackets are read: the columns of a result, and the members of a
group. -/
structure Reading where
  result : Context → Naming → Branch → List Token → List DefinedColumn
  sources : Context → List Token → List Source

/-- Nothing is read. -/
def Reading.empty : Reading :=
  ⟨fun _ _ _ _ => [], fun _ _ => []⟩

namespace Reading

/-! ### Columns of a result -/

/-- The affinity of an expression. -/
def affinity (inner : Reading) (context : Context) (expression : List Token) : Affinity :=
  let operand := operand expression
  match query? operand, conversion? operand with
  | some query, _ =>
      (((inner.result context .spelled .last query).head?).map DefinedColumn.affinity).getD .untyped
  | none, some affinity => affinity
  | none, none =>
      (((reference? operand).bind context.meaning?).map Meaning.affinity).getD .untyped

/-- The name of the column that an expression consists of. -/
def ownName? (context : Context) (naming : Naming) (expression : List Token) : Option String :=
  match naming with
  | .declared => ((reference? (hintedOperand expression)).bind context.meaning?).bind Meaning.name?
  | .spelled => (reference? (operand expression)).map Reference.column

/-- The columns that an item makes from sources. -/
def itemColumns (inner : Reading) (context : Context) (naming : Naming) (sources : List Source)
    (item : Item) : List DefinedColumn :=
  match item with
  | .star source? => starColumns sources source?
  | .value expression spelling givenName? =>
      let name? := givenName?.orElse fun _ => ownName? context naming expression
      [.filled (name?.getD spelling) (inner.affinity context expression)]

/-- The columns of a row of listed values.  A value is named by its position. -/
def rowColumns (inner : Reading) (context : Context) (naming : Naming) (row : List Token) :
    List DefinedColumn :=
  (parts 0 [] row.tail).mapIdx fun index expression =>
    .filled ((ownName? context naming expression).getD ("column" ++ (index + 1).repr))
      (inner.affinity context expression)

/-! ### Sources -/

/-- The sources of a query with one more term.  Bare brackets in front leave their members as they
are. -/
def addTerm (inner : Reading) (context : Context) (earlier : List Source) (term : Term) :
    List Source :=
  let joined (source : Source) : List Source :=
    earlier ++ [source.joined earlier term.join term.shared]
  match term.content with
  | .table schema? name =>
      joined (.ofView (some name) term.givenName?
        ((context.lookup schema? name).getD ⟨none, [], false⟩))
  | .query tokens =>
      joined (.ofView none term.givenName?
        ⟨none, inner.result context .spelled .first tokens, true⟩)
  | .group tokens =>
      let members := inner.sources context tokens
      if earlier.isEmpty ∧ term.isBare then members else joined (.ofGroup term.givenName? members)

/-- The sources that the terms at the front of tokens read. -/
def termSources (inner : Reading) (context : Context) (tokens : List Token) : List Source :=
  (terms tokens).foldl (inner.addTerm context) []

/-! ### Queries -/

/-- The columns of a query that selects. -/
def selected (inner : Reading) (context : Context) (naming : Naming) (tokens : List Token) :
    List DefinedColumn :=
  let (items, clauses) :=
    splitItems (if tokens.head?.any (isWord ["DISTINCT", "ALL"]) then tokens.tail else tokens)
  let sources := ((afterWords? ["FROM"] clauses).map (inner.termSources context)).getD []
  items.flatMap
    (inner.itemColumns { context with scopes := sources :: context.scopes } naming sources)

/-- The columns of a query that lists rows of values. -/
def listed (inner : Reading) (context : Context) (naming : Naming) (branch : Branch)
    (rows : List (List Token)) : List DefinedColumn :=
  let row? :=
    match branch with
    | .first => rows.head?
    | .last => rows.getLast?
  (row?.map (inner.rowColumns context naming)).getD []

end Reading

/-- Words that combine two queries. -/
def combiningWords : List String :=
  ["UNION", "EXCEPT", "INTERSECT"]

/-- The last one of combined queries, from the one that is current.  The number is the depth of
brackets. -/
def lastBranch (current : List Token) : Nat → List Token → List Token
  | _, [] => current
  | depth, token :: rest =>
      if isMark '(' token then lastBranch current (depth + 1) rest
      else if isMark ')' token then lastBranch current (depth - 1) rest
      else if depth = 0 ∧ isWord combiningWords token then lastBranch rest 0 rest
      else lastBranch current depth rest

/-- The tokens from the first one outside brackets that is one of some words.  The number is the depth
of brackets. -/
def fromOutside (words : List String) : Nat → List Token → List Token
  | _, [] => []
  | depth, token :: rest =>
      if isMark '(' token then fromOutside words (depth + 1) rest
      else if isMark ')' token then fromOutside words (depth - 1) rest
      else if depth = 0 ∧ isWord words token then token :: rest
      else fromOutside words depth rest

/-- Combined queries that leave out equal rows, in an order with a collation.  They are read as the
inner query of a star. -/
def isCollated (tokens : List Token) : Bool :=
  let outside := outsideBrackets 0 tokens
  ((outside.zip outside.tail).any fun (first, second) =>
    isWord combiningWords first && !isWord ["ALL"] second) &&
    (fromOutside ["ORDER"] 0 tokens).any (isWord ["COLLATE"])

/-- A query with a name, and perhaps names for its columns. -/
structure NamedQuery where
  name : String
  columnNames? : Option (List String)
  tokens : List Token
  deriving DecidableEq, Repr

/-- Named queries with commas between them, and what follows.  The number bounds them. -/
def splitNamedFrom : Nat → List Token → List NamedQuery × List Token
  | 0, tokens => ([], tokens)
  | _, [] => ([], [])
  | bound + 1, name :: rest =>
      let names := namesInBrackets rest
      let opened := (afterBrackets rest).dropWhile fun token => !isMark '(' token
      let (inside, after) := splitAtClosing 0 opened.tail
      let query : NamedQuery :=
        ⟨name.name?.getD "", if names.isEmpty then none else some names, inside⟩
      match after with
      | [] => ([query], [])
      | token :: more =>
          if isMark ',' token then
            let (queries, left) := splitNamedFrom bound more
            (query :: queries, left)
          else ([query], token :: more)

/-- The named queries at the front of a query, and the query itself. -/
def splitNamed (tokens : List Token) : List NamedQuery × List Token :=
  match afterWords? ["WITH"] tokens with
  | none => ([], tokens)
  | some named =>
      splitNamedFrom tokens.length ((afterWords? ["RECURSIVE"] named).getD named)

/-- Tables with named queries before them.  A named query reads the others like tables, and the number
bounds how far that goes. -/
def withNamed (read : Lookup → NamedQuery → View) (queries : List NamedQuery) (lookup : Lookup) :
    Nat → Lookup
  | 0 => lookup
  | bound + 1 => fun schema? name =>
      match schema?, queries.find? fun query => sameName query.name name with
      | none, some query => some (read (withNamed read queries lookup bound) query)
      | _, _ => lookup schema? name

/-- The columns of a named query. -/
def NamedQuery.columns (query : NamedQuery) (result : List DefinedColumn) : List DefinedColumn :=
  match query.columnNames? with
  | none => result
  | some names => numbered [] (names.zipWith (fun name column => { column with name }) result)

namespace Reading

/-- The columns of a query without named queries before it. -/
def branchResult (inner : Reading) (context : Context) (naming : Naming) (branch : Branch)
    (tokens : List Token) : List DefinedColumn :=
  let naming := if isCollated tokens then .spelled else naming
  let query :=
    match branch with
    | .first => tokens
    | .last =>
        let last := lastBranch tokens 0 tokens
        (afterWords? ["ALL"] last).getD last
  match afterWords? ["SELECT"] query, afterWords? ["VALUES"] query with
  | some tokens, _ => numbered [] (inner.selected context naming tokens)
  | none, some rows => numbered [] (inner.listed context naming branch (parts 0 [] rows))
  | none, none => []

/-- One more level of inner queries is read. -/
def next (inner : Reading) : Reading where
  result context naming branch tokens :=
    let (queries, query) := splitNamed tokens
    let read (lookup : Lookup) (query : NamedQuery) : View :=
      ⟨none, query.columns (inner.result { context with lookup } .spelled .first query.tokens),
        false⟩
    let lookup := withNamed read queries context.lookup queries.length
    inner.branchResult { context with lookup } naming branch query
  sources := inner.termSources

end Reading

/-- Queries with inner queries up to a level are read. -/
def reading : Nat → Reading
  | 0 => .empty
  | level + 1 => (reading level).next

/-- The columns of the result of a query, from its tokens and what follows them in the statement. -/
def columns (lookup : Lookup) (query : List Token) (trailing : List Char) : List DefinedColumn :=
  (reading (query.length + 1)).result ⟨lookup, []⟩ .declared .first
    (query ++ [⟨trailing, [], .mark ';'⟩])

/-! ### Laws -/

theorem withNamed_some (read : Lookup → NamedQuery → View) (queries : List NamedQuery)
    (lookup : Lookup) (bound : Nat) (schema name : String) :
    withNamed read queries lookup bound (some schema) name = lookup (some schema) name := by
  cases bound <;> rfl

theorem reading_succ (level : Nat) : reading (level + 1) = (reading level).next := rfl

end TableExport.Selection
