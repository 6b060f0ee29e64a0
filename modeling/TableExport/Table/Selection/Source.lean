import TableExport.Table.Place
import TableExport.Table.Selection.Expression
import TableExport.Table.Selection.Name

/-! # Sources of queries

A query reads sources: tables, results of inner queries, and groups of sources in brackets.  Each is
joined to the ones before it, perhaps by columns that they share.  A shared column is one column for
a name without a source: that of the left side, of the right side if only its rows are all kept, and
a merged one if the rows of both sides are.

A group is a source whose columns still know the tables they come from.

Main statement: a star over one table names its columns (`map_name_starColumns`). -/

namespace TableExport.Selection

open Definition (sameName)

/-- A table as queries see it.  Only a table of the database has a place. -/
structure View where
  place? : Option Place
  columns : List DefinedColumn
  hasRowNumbers : Bool
  deriving DecidableEq, Repr

/-- How a source is joined to the ones before it: whether by all common columns, and whether the rows
of the left and of the right side are all kept. -/
structure Join where
  isNatural : Bool
  keepsLeft : Bool
  keepsRight : Bool
  deriving DecidableEq, Repr

/-- The join that keeps only rows with a partner. -/
def Join.inner : Join := ⟨false, false, false⟩

/-- Where a column of a source comes from: the source itself, or within a group columns that its
members share, or one member. -/
inductive Origin
  | own
  | shared (column : String)
  | member (place? : Option Place) (source? : Option String) (column : String)
  deriving DecidableEq, Repr

/-- A column of a source.  A star without a name stands for it only if it is spread. -/
structure SourceColumn where
  column : DefinedColumn
  origin : Origin
  isSpread : Bool
  deriving DecidableEq, Repr

/-- A source of a query.  It can have a name of its own and a given one, which hides it. -/
structure Source where
  place? : Option Place
  ownName? : Option String
  givenName? : Option String
  columns : List SourceColumn
  hasRowNumbers : Bool
  join : Join
  shared : List String
  deriving DecidableEq, Repr

/-- What a name means: a column, or the merged one of two sides. -/
inductive Meaning
  | single (column : DefinedColumn)
  | merged
  deriving DecidableEq, Repr

/-- The name of the column, unless it is merged. -/
def Meaning.name? : Meaning → Option String
  | .single column => some column.name
  | .merged => none

/-- The affinity of the column; a merged one has none. -/
def Meaning.affinity : Meaning → Affinity
  | .single column => column.affinity
  | .merged => .untyped

/-! ### Names -/

/-- A reference can mean something in a source with a place and a name. -/
def Reference.fits (reference : Reference) (place? : Option Place) (name? : Option String) : Bool :=
  (reference.source?.all fun source => name?.any (sameName source)) &&
    reference.schema?.all fun schema => place?.isSome && place? = Place.ofName? schema

namespace Source

/-- The name of a source in a query. -/
def name? (source : Source) : Option String :=
  source.givenName?.orElse fun _ => source.ownName?

/-- A name is that of a column by which the source is joined. -/
def shares (source : Source) (name : String) : Bool :=
  isAmong source.shared name

/-- A reference can mean a column by where it comes from. -/
def isMeant (source : Source) (reference : Reference) (column : SourceColumn) : Bool :=
  match column.origin with
  | .own => reference.fits source.place? source.name? && sameName column.column.name reference.column
  | .shared name => reference.fits none none && sameName name reference.column
  | .member place? source? name => reference.fits place? source? && sameName name reference.column

/-- The columns up to the first one that members of a group share, and that one. -/
def throughShared : List SourceColumn → List SourceColumn
  | [] => []
  | column :: rest =>
      match column.origin with
      | .shared _ => [column]
      | _ => column :: throughShared rest

/-- The columns that a reference can mean: by where they come from, or else by the name that they have
in a source that the reference names. -/
def meant (source : Source) (reference : Reference) : List DefinedColumn :=
  match throughShared (source.columns.filter (source.isMeant reference)) with
  | [] =>
      if reference.source?.isSome ∧ reference.fits source.place? source.name? then
        ((source.columns.map SourceColumn.column).find? fun column =>
          sameName column.name reference.column).toList
      else []
  | columns => columns.map SourceColumn.column

/-- What a reference means after one more column that it can mean. -/
def choose (source : Source) (reference : Reference) (found? : Option Meaning)
    (column : DefinedColumn) : Option Meaning :=
  match found? with
  | none => some (.single column)
  | some found =>
      if source.shares reference.column ∧ source.join.keepsRight then
        some (if source.join.keepsLeft then .merged else .single column)
      else some found

/-- The column with the number of a row. -/
def rowNumber (source : Source) : DefinedColumn :=
  ((source.columns.map SourceColumn.column).find? DefinedColumn.isRowNumber).getD
    (.filled "rowid" .integer)

end Source

/-- Names of the number of a row, where no column has them. -/
def rowNumberNames : List String :=
  ["ROWID", "OID", "_ROWID_"]

/-- What a reference means among sources. -/
def meaning? (sources : List Source) (reference : Reference) : Option Meaning :=
  let found? :=
    sources.foldl (fun found? source =>
      (source.meant reference).foldl (source.choose reference) found?) none
  found?.orElse fun _ =>
    if isAmong rowNumberNames reference.column then
      match sources.filter fun source =>
        source.hasRowNumbers && reference.fits source.place? source.name? with
      | [source] => some (.single source.rowNumber)
      | _ => none
    else none

/-- The affinity of what a name means among sources. -/
def affinityOf (sources : List Source) (name : String) : Affinity :=
  ((meaning? sources ⟨none, none, name⟩).map Meaning.affinity).getD .untyped

/-- Two sources have the same name and place. -/
def Source.isTwin (first second : Source) : Bool :=
  first.place? = second.place? &&
    first.name?.any fun name => second.name?.any (sameName name)

/-- The affinity of a column under the name of its source.  Sources with the same name can share the
column. -/
def Source.affinityOf (sources : List Source) (source : Source) (column : DefinedColumn) : Affinity :=
  match meaning? (sources.filter source.isTwin) ⟨none, source.name?, column.name⟩ with
  | some meaning => meaning.affinity
  | none => column.affinity

/-! ### Stars -/

/-- The column that a star takes from a source before later ones.  If the right side of a later join
keeps all rows, a column that is shared later is what its name means. -/
def starColumn (sources later : List Source) (source : Source) (column : DefinedColumn) :
    DefinedColumn :=
  .filled column.name
    (if later.any (fun next => next.join.keepsRight) ∧
        later.any (fun next => next.shares column.name) then
      affinityOf sources column.name
    else source.affinityOf sources column)

/-- A column belongs to a table with a name. -/
def SourceColumn.isOf (source : Source) (name : String) (column : SourceColumn) : Bool :=
  match column.origin with
  | .own => source.name?.any (sameName name)
  | .shared _ => false
  | .member _ member? _ => member?.any (sameName name)

/-- The columns that a star takes from the sources that remain, with a name before it or without.
Without one it leaves out columns by which a source is joined to the ones before it. -/
def starColumnsFrom (sources : List Source) (name? : Option String) (isFirst : Bool) :
    List Source → List DefinedColumn
  | [] => []
  | source :: later =>
      let isTaken (column : SourceColumn) : Bool :=
        match name? with
        | some name => column.isOf source name
        | none => column.isSpread && (isFirst || !source.shares column.column.name)
      ((source.columns.filter isTaken).map fun column =>
        starColumn sources later source column.column)
        ++ starColumnsFrom sources name? false later

/-- The columns that a star stands for. -/
def starColumns (sources : List Source) (name? : Option String) : List DefinedColumn :=
  starColumnsFrom sources name? true sources

/-! ### Groups -/

/-- A column that the members of a group share. -/
def sharedColumn (members : List Source) (name : String) : SourceColumn :=
  { column := .filled name (affinityOf members name)
    origin := .shared name
    isSpread := true }

/-- A column of a member of a group.  A star takes those that are shared only once. -/
def memberColumn (members : List Source) (member : Source) (sharedNext : List String)
    (column : SourceColumn) : SourceColumn :=
  let name := column.column.name
  { column := .filled name (member.affinityOf members column.column)
    origin :=
      match column.origin with
      | .own => .member member.place? member.name? name
      | .shared name => .member none none name
      | .member place? source? name => .member place? source? name
    isSpread := column.isSpread && !member.shares name && !isAmong sharedNext name }

/-- The columns of the members of a group that remain, each member after the columns that the next one
shares. -/
def memberColumns (members : List Source) : List Source → List SourceColumn
  | [] => []
  | member :: later =>
      let sharedNext := (later.head?.map Source.shared).getD []
      sharedNext.map (sharedColumn members) ++ member.columns.map (memberColumn members member sharedNext)
        ++ memberColumns members later

/-- A name gives way to a taken one: without that, it would get another name. -/
def givesWay (taken : List String) (name other : String) : Bool :=
  freeName (taken.filter fun first => !sameName first other) name ≠ freeName taken name

/-- The columns of a group with different names.  One that gives way to a shared column is not
spread. -/
def groupColumns (shared taken : List String) : List SourceColumn → List SourceColumn
  | [] => []
  | column :: rest =>
      let wanted := nameAt taken.length column.column.name
      let name := freeName taken wanted
      let sharedNow :=
        match column.origin with
        | .shared _ => name :: shared
        | _ => shared
      { column with
        column := { column.column with name }
        isSpread := column.isSpread && !shared.any (givesWay taken wanted) }
        :: groupColumns sharedNow (name :: taken) rest

/-! ### Sources -/

/-- A table or a result as the first source. -/
def Source.ofView (ownName? givenName? : Option String) (view : View) : Source :=
  { place? := view.place?
    ownName?, givenName?
    columns := view.columns.map (⟨·, .own, true⟩)
    hasRowNumbers := view.hasRowNumbers
    join := .inner
    shared := [] }

/-- Sources in brackets as one source.  A single one gets the given name instead of its own. -/
def Source.ofGroup (givenName? : Option String) (members : List Source) : Source :=
  match members with
  | [member] => { member with givenName? }
  | members =>
      { place? := none
        ownName? := none
        givenName?
        columns := groupColumns [] [] (memberColumns members members)
        hasRowNumbers := false
        join := .inner
        shared := [] }

/-- The names of the columns of a source that earlier ones have too. -/
def Source.common (earlier : List Source) (source : Source) : List String :=
  let names := earlier.flatMap fun source => source.columns.map fun column => column.column.name
  (source.columns.map fun column => column.column.name).filter (isAmong names)

/-- A source that is joined to earlier ones, by the columns with given names. -/
def Source.joined (earlier : List Source) (join : Join) (names : List String) (source : Source) :
    Source :=
  { source with join, shared := if join.isNatural then source.common earlier else names }

/-! ### Laws -/

theorem meaning?_nil (reference : Reference) : meaning? [] reference = none := by
  simp [meaning?]

theorem map_name_starColumns (ownName? givenName? : Option String) (view : View) :
    (starColumns [.ofView ownName? givenName? view] none).map DefinedColumn.name =
      view.columns.map DefinedColumn.name := by
  have all : view.columns.filter (fun _ => true) = view.columns :=
    List.filter_eq_self.2 fun _ _ => rfl
  simp [starColumns, starColumnsFrom, Source.ofView, starColumn, DefinedColumn.filled,
    List.filter_map, Function.comp_def, all]

theorem Source.choose_isSome (source : Source) (reference : Reference) (found? : Option Meaning)
    (column : DefinedColumn) : (source.choose reference found? column).isSome := by
  unfold choose
  split
  · rfl
  · split <;> rfl

end TableExport.Selection
