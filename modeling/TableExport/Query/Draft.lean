import TableExport.Bindings
import TableExport.Query.Fault
import TableExport.Query.Parameter
import TableExport.Sql.Dialect
import TableExport.Sql.Statement
import TableExport.Text.UpperCase

/-! # Queries under construction

A draft collects the parts of a statement and the parameters it uses.  Parts are only ever added at
the end; a part that is refused leaves the draft as it was, because the operation then returns a
fault and no draft.  A finished draft is a `Query`: the text of the statement with the bound values
and their declared types.

Main statements: a generated name was free before (`nextName_not_mem`), and a bound name has the
value and the type it was bound with, every other name keeping its own
(`get?_values_bind`, `get?_types_bind`). -/

namespace TableExport

/-- The direction that a text names, in any letter case. -/
def Direction.ofText? (text : String) : Option Direction :=
  Direction.names.lookup (String.ofList (Text.upper text.toList))

/-- The text of a statement with the parameters it uses. -/
structure Query where
  sql : String
  dialect : Sql.Dialect
  values : Bindings BoundValue
  types : Bindings ParameterType

/-- The parameters in order of binding, each with its declared type. -/
def Query.typedParameters (query : Query) :
    Except Fault (List (String × ParameterType × BoundValue)) :=
  query.values.entries.mapM fun (name, value) =>
    match query.types.get? name with
    | some type => .ok (name, type, value)
    | none => .error (.untypedParameter name)

/-- A query under construction. -/
structure Draft where
  select : List Sql.SelectItem
  source : Option Sql.Source
  conditions : List Sql.Condition
  order : List Sql.OrderTerm
  limit : Option Nat
  values : Bindings BoundValue
  types : Bindings ParameterType
  counter : Nat

namespace Draft

/-- The draft without parts. -/
def empty : Draft :=
  ⟨[], none, [], [], none, .empty, .empty, 0⟩

/-! ### Adding parts -/

/-- The draft with one more item to select. -/
def addItem (draft : Draft) (item : Sql.SelectItem) : Draft :=
  { draft with select := draft.select ++ [item] }

/-- The draft with a source, in place of the one it may have. -/
def setSource (draft : Draft) (source : Sql.Source) : Draft :=
  { draft with source := some source }

/-- The draft with one more condition. -/
def addCondition (draft : Draft) (condition : Sql.Condition) : Draft :=
  { draft with conditions := draft.conditions ++ [condition] }

/-- The draft with one more term to sort by. -/
def addTerm (draft : Draft) (term : Sql.OrderTerm) : Draft :=
  { draft with order := draft.order ++ [term] }

/-- The draft with one more term to sort by, its direction named by a text. -/
def sortBy? (draft : Draft) (expr : Sql.Expr) (direction : String) : Except Fault Draft :=
  match Direction.ofText? direction with
  | some direction => .ok (draft.addTerm ⟨expr, direction⟩)
  | none => .error (.misuse (.unknownDirection direction))

/-- The draft with a limit. -/
def setLimit (draft : Draft) (rows : Nat) : Draft :=
  { draft with limit := some rows }

/-- The draft with a limit, unless it is negative. -/
def limitTo? (draft : Draft) (rows : Int) : Except Fault Draft :=
  if 0 ≤ rows then .ok (draft.setLimit rows.toNat)
  else if (Numeral.write? rows).isNone then .error .integerTooLong
  else .error (.misuse (.negativeLimit rows))

/-! ### Binding parameters -/

/-- The draft with a name bound to a value of a type. -/
def bind (draft : Draft) (name : String) (type : ParameterType) (value : BoundValue) : Draft :=
  { draft with values := draft.values.put name value, types := draft.types.put name type }

/-- The draft with a name bound to a value, the name's type being left as it is. -/
def putValue (draft : Draft) (name : String) (value : BoundValue) : Draft :=
  { draft with values := draft.values.put name value }

/-- The number of the next generated name. -/
def nextNumber (draft : Draft) : Nat :=
  Parameter.firstFree draft.values.keys draft.values.keys.length draft.counter

/-- The next generated name. -/
def nextName (draft : Draft) : String :=
  Parameter.generated draft.nextNumber

/-- The draft with the next generated name bound to a value of a type. -/
def bindNext (draft : Draft) (type : ParameterType) (value : BoundValue) : Draft :=
  { draft.bind draft.nextName type value with counter := draft.nextNumber + 1 }

/-- The draft with a given name bound, unless the name is in use or of the generated form. -/
def bindNamed? (draft : Draft) (name : String) (type : ParameterType) (value : BoundValue) :
    Except Fault Draft :=
  if name ∈ draft.values.keys then .error (.misuse (.alreadyBound name))
  else if Parameter.isReserved name then .error (.misuse (.reservedName name))
  else .ok (draft.bind name type value)

/-! ### Finishing -/

/-- The text of the statement.  It needs a source, and a limit that is not too long to write. -/
def sql? (draft : Draft) : Except Fault String :=
  match draft.source with
  | none => .error (.misuse .noSource)
  | some source =>
      if draft.limit.any fun rows => (Numeral.write? rows).isNone then .error .integerTooLong
      else .ok (Sql.Statement.render
        ⟨draft.select, source, draft.conditions, draft.order, draft.limit⟩)

/-- The finished query. -/
def finish? (draft : Draft) : Except Fault Query :=
  draft.sql?.map fun sql => ⟨sql, .bigquery, draft.values, draft.types⟩

/-! ### Laws of binding -/

theorem nextName_not_mem (draft : Draft) : draft.nextName ∉ draft.values.keys :=
  Parameter.generated_firstFree_not_mem (Nat.le_refl _) _

theorem counter_le_nextNumber (draft : Draft) : draft.counter ≤ draft.nextNumber :=
  Parameter.le_firstFree _ _ _

theorem get?_values_bind (draft : Draft) (name other : String) (type : ParameterType)
    (value : BoundValue) :
    (draft.bind name type value).values.get? other =
      if other = name then some value else draft.values.get? other :=
  Bindings.get?_put draft.values name other value

theorem get?_types_bind (draft : Draft) (name other : String) (type : ParameterType)
    (value : BoundValue) :
    (draft.bind name type value).types.get? other =
      if other = name then some type else draft.types.get? other :=
  Bindings.get?_put draft.types name other type

theorem keys_values_bindNext (draft : Draft) (type : ParameterType) (value : BoundValue) :
    (draft.bindNext type value).values.keys = draft.values.keys ++ [draft.nextName] := by
  change (draft.values.put draft.nextName value).keys = _
  rw [Bindings.keys_put, if_neg draft.nextName_not_mem]

end Draft
end TableExport
