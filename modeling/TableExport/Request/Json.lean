import TableExport.Json.Check
import TableExport.Json.Reader
import TableExport.Request.Basic

/-! # Requests as JSON

A request is an object, either as data or as a JSON text.  `Request.check` reports every problem
of an object; `Request.ofJson?` reads a text first.  Reading a request fails for one of three
reasons (`RequestFault`): the text is no JSON, an integer in it is too long, or the data does not
have the form of a request. -/

namespace TableExport

open Json (Checked Value Check.required Check.optional Check.record)

/-- The literals of a filter: a list of one or more texts. -/
def Filter.checkLiterals (value : Value) : Checked (String × List String) :=
  match Json.Check.listOf Json.Check.text value with
  | .accepted (literal :: more) => .accepted (literal, more)
  | .accepted [] => .reject .emptyList
  | .rejected problems => .rejected problems

/-- The member names of a filter. -/
def Filter.memberNames : List String := ["column_name", "operator", "values", "data_type"]

/-- The filter that an object describes. -/
def Filter.check : Value → Checked Filter :=
  Check.record "Filter" memberNames fun members =>
    (fun column operator literals type => ⟨column, operator, literals.1, literals.2, type⟩)
      <$> Check.required "column_name" Json.Check.text members
      <*> Check.optional "operator" .eq (Json.Check.choice Operator.names) members
      <*> Check.required "values" checkLiterals members
      <*> Check.optional "data_type" .string (Json.Check.choice DataType.names) members

/-- The member names of a sort key. -/
def SortKey.memberNames : List String := ["column_name", "data_type", "direction"]

/-- The sort key that an object describes. -/
def SortKey.check : Value → Checked SortKey :=
  Check.record "SortKey" memberNames fun members =>
    SortKey.mk
      <$> Check.required "column_name" Json.Check.text members
      <*> Check.optional "data_type" .string (Json.Check.choice DataType.names) members
      <*> Check.optional "direction" .ascending (Json.Check.choice Direction.names) members

namespace Request

/-- The name that messages give to the form of a request. -/
def model : String := "ExportSpecification"

/-- The member names of a request. -/
def memberNames : List String :=
  ["table_name", "dataset", "columns", "filters", "order_by", "limit", "change_since",
    "change_until", "truncate_large_columns"]

/-- The request that an object describes. -/
def check : Value → Checked Request :=
  Check.record model memberNames fun members =>
    Request.mk
      <$> Check.required "table_name" Json.Check.text members
      <*> Check.optional "dataset" none Json.Check.optionalText members
      <*> Check.optional "columns" [] (Json.Check.listOf Json.Check.text) members
      <*> Check.optional "filters" [] (Json.Check.listOf Filter.check) members
      <*> Check.optional "order_by" [] (Json.Check.listOf SortKey.check) members
      <*> Check.optional "limit" 0 Json.Check.integer members
      <*> Check.optional "change_since" "" Json.Check.text members
      <*> Check.optional "change_until" "" Json.Check.text members
      <*> Check.optional "truncate_large_columns" false Json.Check.truthValue members

end Request

/-- Why a request cannot be read. -/
inductive RequestFault
  | notJson (complaint : Json.Complaint) (place : Json.Place)
  | longInteger (digits : Nat)
  | invalid (problems : List Json.Problem)
  deriving DecidableEq, Repr

/-- The wording of a fault. -/
def RequestFault.message : RequestFault → String
  | .notJson complaint place =>
      "Invalid JSON: " ++ complaint.message ++ ": line " ++ place.line.repr ++ " column "
        ++ place.column.repr ++ " (char " ++ place.offset.repr ++ ")"
  | .longInteger digits => Numeral.unreadMessage digits
  | .invalid _ => Request.model ++ " structure is invalid"

namespace Request

/-- The request that decoded data describes. -/
def ofData? (data : Value) : Except RequestFault Request :=
  match check data with
  | .accepted request => .ok request
  | .rejected problems => .error (.invalid (Json.Problem.inPathOrder problems))

/-- The request that a JSON text describes. -/
def ofText? (text : String) : Except RequestFault Request :=
  match Json.read (some Numeral.digitLimit) text with
  | .ok data => ofData? data
  | .error (.malformed complaint place) => .error (.notJson complaint place)
  | .error (.longInteger digits) => .error (.longInteger digits)

/-- The request that a value describes: a text is JSON, anything else is data. -/
def ofJson? : Value → Except RequestFault Request
  | .text text => ofText? text
  | data => ofData? data

end Request
end TableExport
