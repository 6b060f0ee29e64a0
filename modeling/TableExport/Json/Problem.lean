/-! # Problems of JSON data

Data that does not have the required form is described by a list of problems.  A problem is a
mismatch between what is required and what is there, together with the path to it.  Problems are
reported in the order of their paths, written with slashes (`Problem.inPathOrder`). -/

namespace TableExport.Json

/-- A step of a path: into a member of an object, or to an element of a list. -/
inductive Segment
  | name (key : String)
  | position (index : Nat)
  deriving DecidableEq, Repr

/-- A step of a path as text. -/
def Segment.text : Segment → String
  | .name key => key
  | .position index => index.repr

/-- What is wrong with a value. -/
inductive Mismatch
  | missing
  | unknownName
  | notAnObject (model : String)
  | notText
  | notAList
  | emptyList
  | notAChoice (choices : List String)
  | unreadableTruthValue
  | notATruthValue
  | fraction
  | notFinite
  | unreadableInteger
  | oversizeInteger
  | notAnInteger
  deriving DecidableEq, Repr

namespace Mismatch

/-- The short name of a mismatch. -/
def code : Mismatch → String
  | .missing => "missing"
  | .unknownName => "extra_forbidden"
  | .notAnObject _ => "model_type"
  | .notText => "string_type"
  | .notAList => "list_type"
  | .emptyList => "too_short"
  | .notAChoice _ => "enum"
  | .unreadableTruthValue => "bool_parsing"
  | .notATruthValue => "bool_type"
  | .fraction => "int_from_float"
  | .notFinite => "finite_number"
  | .unreadableInteger => "int_parsing"
  | .oversizeInteger => "int_parsing_size"
  | .notAnInteger => "int_type"

/-- Alternatives in words: separated by commas, the last one by "or". -/
def alternatives : List String → String
  | [] => ""
  | [choice] => choice
  | [choice, last] => choice ++ " or " ++ last
  | choice :: next :: rest => choice ++ ", " ++ alternatives (next :: rest)

/-- The wording of a mismatch. -/
def message : Mismatch → String
  | .missing => "Field required"
  | .unknownName => "Extra inputs are not permitted"
  | .notAnObject model => "Input should be a valid dictionary or instance of " ++ model
  | .notText => "Input should be a valid string"
  | .notAList => "Input should be a valid list"
  | .emptyList => "List should have at least 1 item after validation, not 0"
  | .notAChoice choices =>
      "Input should be " ++ alternatives (choices.map fun choice => "'" ++ choice ++ "'")
  | .unreadableTruthValue => "Input should be a valid boolean, unable to interpret input"
  | .notATruthValue => "Input should be a valid boolean"
  | .fraction => "Input should be a valid integer, got a number with a fractional part"
  | .notFinite => "Input should be a finite number"
  | .unreadableInteger => "Input should be a valid integer, unable to parse string as an integer"
  | .oversizeInteger => "Unable to parse input string as an integer, exceeded maximum size"
  | .notAnInteger => "Input should be a valid integer"

end Mismatch

/-- A mismatch and the path to it from the outermost value. -/
structure Problem where
  path : List Segment
  mismatch : Mismatch
  deriving DecidableEq, Repr

namespace Problem

/-- A problem of a part, seen from the whole. -/
def under (segment : Segment) (problem : Problem) : Problem :=
  { problem with path := segment :: problem.path }

/-- The path of a problem as text. -/
def pathText (problem : Problem) : String :=
  String.intercalate "/" (problem.path.map Segment.text)

/-- The problems ordered by path; problems with the same path text keep their order. -/
def inPathOrder (problems : List Problem) : List Problem :=
  problems.mergeSort fun first second => first.pathText ≤ second.pathText

theorem inPathOrder_perm (problems : List Problem) : (inPathOrder problems).Perm problems :=
  List.mergeSort_perm _ _

end Problem
end TableExport.Json
