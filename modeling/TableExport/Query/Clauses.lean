import TableExport.Query.Cast
import TableExport.Query.Excerpt
import TableExport.Query.Literal
import TableExport.Query.Plan
import TableExport.Settings
import TableExport.Time.UnixTime

/-! # The clauses of a request

Each clause of a request is a list of parts; a part is the steps it needs, or the fault that keeps
it from being compiled.  The parts of a projection are its columns, those of the filters the single
filters, and those of the change window its two bounds.  Sort keys count up to the first one that is
not a text, and that one too.

The clauses are compiled in the order projection, filters, change window, sort keys, limit
(`Request.parts`). -/

namespace TableExport

/-! ### Projection -/

/-- The two steps for a column of which an excerpt is selected. -/
def excerptSteps (column : String) (excerpt : Excerpt) : List Step :=
  [.select (.aliased excerpt.value column), .selectFlag excerpt.flag column]

/-- The steps for a column of which an excerpt is selected. -/
def excerptPart (settings : Settings) (known? : Option Table) (table column : String) :
    Except Fault (List Step) :=
  match known?.bind (·.column? column) with
  | none => .error (.columnMissing column)
  | some found =>
      (Excerpt.ofShape? found.shape (columnReference table column) settings.budget).map
        (excerptSteps column)

/-- The parts of a projection. -/
def projectionParts (settings : Settings) (known? : Option Table) (table : String)
    (truncate : Bool) : List String → List (Except Fault (List Step))
  | [] => [.ok [.select .everything]]
  | columns =>
      if truncate then columns.map (excerptPart settings known? table)
      else columns.map fun column => .ok [.select (.plain (columnReference table column))]

/-! ### Filters -/

/-- The relation that an operator means for several literals. -/
def Operator.membership? : Operator → Option Sql.Relation
  | .eq => some .isMember
  | .ne => some .isNoMember
  | _ => none

/-- The declared type of the array that several literals are bound as. -/
def DataType.arrayType : DataType → ParameterType
  | .string => .stringArray
  | _ => .int64Array

/-- A converter's answer, where a refusal is a misuse. -/
def converted (converter : Converter) (table column : String) (type : DataType) :
    Except Misuse Sql.Expr :=
  match converter table column type with
  | .ok expr => .ok expr
  | .error reason => .error (.noConversion reason)

/-- The expression that a filter compares: the column itself as text, or what the converter makes
of it. -/
def filterSubject (converter : Converter) (table : String) (filter : Filter) :
    Except Fault Sql.Expr :=
  if filter.type = .string then .ok (columnReference table filter.column)
  else (converted converter table filter.column filter.type).mapError .misuse

/-- How a filter relates to its parameter, with the parameter's declared type and its value. -/
def filterTest (filter : Filter) : Except Fault (Sql.Relation × ParameterType × BoundValue) :=
  if filter.hasSeveral then
    match filter.operator.membership? with
    | none => .error (.severalLiterals filter.column filter.operator)
    | some relation =>
        (Literal.values filter.type (some filter.column) filter.literals).map fun values =>
          (relation, filter.type.arrayType, .array values)
  else
    (Literal.value filter.type (some filter.column) filter.literal).map fun value =>
      (.compares filter.operator, filter.type.parameterType, .scalar value)

/-- The steps for a filter. -/
def filterPart (converter : Converter) (table : String) (filter : Filter) :
    Except Fault (List Step) :=
  match filterTest filter with
  | .error fault => .error fault
  | .ok (relation, type, value) =>
      (filterSubject converter table filter).map fun subject =>
        [.require subject relation type value]

/-! ### Change window -/

/-- The column that holds the time of a row's last change. -/
def changeTimeColumn : String := "_timestamp"

/-- A Unix time as text of date and time, or the fault that it is malformed. -/
def changeTime (text : String) : Except Fault String :=
  match UnixTime.format? text with
  | some moment => .ok moment
  | none => .error (.malformedLiteral text .unixTime (some changeTimeColumn))

/-- The steps for a bound of the change window; an empty bound needs none. -/
def changeBoundPart (name : String) (operator : Operator) (text : String) :
    Except Fault (List Step) :=
  if text = "" then .ok []
  else
    (changeTime text).map fun moment =>
      [.requireNamed name (.reference [changeTimeColumn]) (.compares operator) .timestamp
        (.scalar (.text moment))]

/-- The parts of the change window. -/
def changeWindowParts (changedSince changedUntil : String) : List (Except Fault (List Step)) :=
  [changeBoundPart "changedSince" .ge changedSince, changeBoundPart "changedUntil" .lt changedUntil]

/-! ### Order and limit -/

/-- The parts of the sort keys, up to the first one that is not a text. -/
def orderParts (converter : Converter) (table : String) :
    List SortKey → List (Except Fault (List Step))
  | [] => []
  | key :: rest =>
      if key.type = .string then
        .ok [.sort ⟨columnReference table key.column, key.direction⟩]
          :: orderParts converter table rest
      else
        [match converted converter table key.column key.type with
          | .ok expr => .ok [.sort ⟨expr, key.direction⟩]
          | .error cause => .error (.sortRefused cause)]

/-- The part of the limit; a limit below one needs no step. -/
def limitPart (limit : Int) : Except Fault (List Step) :=
  if 0 < limit then .ok [.limit limit.toNat] else .ok []

/-! ### All clauses -/

/-- The parts of all clauses in order. -/
def Request.parts (settings : Settings) (converter : Converter) (known? : Option Table)
    (request : Request) : List (Except Fault (List Step)) :=
  projectionParts settings known? request.table request.truncate request.columns
    ++ request.filters.map (filterPart converter request.table)
    ++ changeWindowParts request.changedSince request.changedUntil
    ++ orderParts converter request.table request.order
    ++ [limitPart request.limit]

/-- The plan of a request. -/
def Request.plan (settings : Settings) (converter : Converter) (known? : Option Table)
    (request : Request) : Plan :=
  Plan.ofParts (request.parts settings converter known?)

end TableExport
