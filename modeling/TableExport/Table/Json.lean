import TableExport.Json.Check
import TableExport.Table.Basic

/-! # Tables as JSON

A table is an object with a name and a list of columns; a column is an object with a name, a type,
and optionally its class and whether it may be null.  When the class is absent or null it is derived
from the type before anything else is checked; a type that is not a text then ends the check at
once (`TableFault.typeNotText`), while all other problems are collected. -/

namespace TableExport

open Json (Checked Value Check.required Check.optional Check.record)

/-- The kind of a JSON value that is not a text, as messages name it. -/
inductive OtherKind
  | null
  | bool
  | integer
  | real
  | list
  | object
  deriving DecidableEq, Repr

/-- The name of a kind. -/
def OtherKind.name : OtherKind → String
  | .null => "NoneType"
  | .bool => "bool"
  | .integer => "int"
  | .real => "float"
  | .list => "list"
  | .object => "dict"

/-- The kind of a value, unless it is a text. -/
def OtherKind.of? : Value → Option OtherKind
  | .null => some .null
  | .bool _ => some .bool
  | .integer _ => some .integer
  | .real _ => some .real
  | .nonFinite => some .real
  | .text _ => none
  | .list _ => some .list
  | .object _ => some .object

/-- Why a table or a column cannot be read. -/
inductive TableFault
  | invalid (problems : List Json.Problem)
  | typeNotText (kind : OtherKind)
  deriving DecidableEq, Repr

/-- The wording of the fault for a type that is not a text. -/
def OtherKind.message (kind : OtherKind) : String :=
  "'" ++ kind.name ++ "' object has no attribute 'strip'"

/-- The value of a check that does not end at once, with its problems in order. -/
def TableFault.ofChecked {α : Type} : Checked α → Except TableFault α
  | .accepted value => .ok value
  | .rejected problems => .error (.invalid (Json.Problem.inPathOrder problems))

namespace Column

/-- The name that messages give to the form of a column. -/
def model : String := "ColumnDefinition"

/-- The member names of a column. -/
def memberNames : List String := ["name", "type", "base_type", "nullable"]

/-- The class is left to be derived from the type. -/
def leavesBaseOpen (members : Json.Check.Members) : Bool :=
  match members.lookup "base_type" with
  | none => true
  | some .null => true
  | some _ => false

/-- The class of a column: derived from the type, or as given. -/
def checkBase (members : Json.Check.Members) : Checked BaseType :=
  match leavesBaseOpen members, members.lookup "type" with
  | true, some (.text type) => .accepted (BaseType.ofTypeName type)
  | _, _ => Check.required "base_type" (Json.Check.choice BaseType.names) members

/-- The column that the members of an object describe. -/
def checkMembers (members : Json.Check.Members) : Checked Column :=
  Column.mk
    <$> Check.required "name" Json.Check.text members
    <*> Checked.map TypeName.bare (Check.required "type" Json.Check.text members)
    <*> checkBase members
    <*> Check.optional "nullable" true Json.Check.truthValue members

/-- The kind of a type that is not a text although a class must be derived from it. -/
def foreignType? : Value → Option OtherKind
  | .object members =>
      if leavesBaseOpen members then (members.lookup "type").bind OtherKind.of? else none
  | _ => none

/-- The column that a value describes, if its type does not end the check at once. -/
def check : Value → Checked Column :=
  Check.record model memberNames checkMembers

/-- The column that a value describes. -/
def ofJson? (value : Value) : Except TableFault Column :=
  match foreignType? value with
  | some kind => .error (.typeNotText kind)
  | none => TableFault.ofChecked (check value)

end Column

namespace Table

/-- The name that messages give to the form of a table. -/
def model : String := "TableDefinition"

/-- The member names of a table. -/
def memberNames : List String := ["name", "columns"]

/-- The kind of the first type in a table that ends the check at once. -/
def foreignType? : Value → Option OtherKind
  | .object members =>
      match members.lookup "columns" with
      | some (.list items) => items.findSome? Column.foreignType?
      | _ => none
  | _ => none

/-- The table that a value describes, if no type ends the check at once. -/
def check : Value → Checked Table :=
  Check.record model memberNames fun members =>
    Table.mk
      <$> Check.required "name" Json.Check.text members
      <*> Check.optional "columns" [] (Json.Check.listOf Column.check) members

/-- The table that a value describes. -/
def ofJson? (value : Value) : Except TableFault Table :=
  match foreignType? value with
  | some kind => .error (.typeNotText kind)
  | none => TableFault.ofChecked (check value)

end Table
end TableExport
