import TableExport.Number.Numeral
import TableExport.Request.Basic
import TableExport.Text.Quoted

/-! # Why a query cannot be built

A fault names its cause and what the cause is about; the wording is in `Fault.message`.  A misuse is
a call that the query under construction refuses; it also stands behind a refused sort key. -/

namespace TableExport

/-- A call that the query under construction refuses. -/
inductive Misuse
  | alreadyBound (name : String)
  | reservedName (name : String)
  | unknownDirection (direction : String)
  | negativeLimit (limit : Int)
  | noSource
  | noConversion (reason : String)
  deriving DecidableEq, Repr

/-- The wording of a misuse. -/
def Misuse.message : Misuse → String
  | .alreadyBound name => "Parameter '" ++ name ++ "' is already bound."
  | .reservedName name =>
      "Parameter name '" ++ name ++ "' is reserved for generated parameters."
  | .unknownDirection direction =>
      "Invalid order direction '" ++ direction ++ "'. Expected one of: ASC, DESC."
  | .negativeLimit limit =>
      "Max results must be a non-negative integer, got " ++ limit.repr ++ "."
  | .noSource => "Cannot render a query without a FROM clause."
  | .noConversion reason => reason

/-- What a literal should have been. -/
inductive LiteralKind
  | data (type : DataType)
  | unixTime
  deriving DecidableEq, Repr

/-- The name of a kind of literal. -/
def LiteralKind.name : LiteralKind → String
  | .data type => type.name
  | .unixTime => "Unix timestamp"

/-- Why a query cannot be built. -/
inductive Fault
  | columnMissing (column : String)
  | severalLiterals (column : String) (operator : Operator)
  | malformedLiteral (literal : String) (kind : LiteralKind) (column : Option String)
  | misuse (cause : Misuse)
  | sortRefused (cause : Misuse)
  | integerTooLong
  | untypedParameter (name : String)
  | suffixesExhausted
  deriving DecidableEq, Repr

namespace Fault

/-- The mention of a column in a message, unless it has no name. -/
def columnMention : Option String → String
  | none => ""
  | some column => if column = "" then "" else " for column \"" ++ column ++ "\""

/-- The wording of a fault. -/
def message : Fault → String
  | .columnMissing column => "Column \"" ++ column ++ "\" not found in table definition."
  | .severalLiterals column operator =>
      "whereFilter with multiple values can be used only with \"eq\", \"ne\" operators (column \""
        ++ column ++ "\" uses \"" ++ operator.name ++ "\")."
  | .malformedLiteral literal kind column =>
      "Value " ++ Text.quoted literal ++ columnMention column ++ " is not a valid "
        ++ kind.name ++ " literal."
  | .misuse cause => cause.message
  | .sortRefused cause => cause.message
  | .integerTooLong => Numeral.limitMessage
  | .untypedParameter name => Text.quoted name
  | .suffixesExhausted => "No suffixes are left for the names of flag columns."

/-- The column that a fault is about. -/
def column? : Fault → Option String
  | .columnMissing column => some column
  | .severalLiterals column _ => some column
  | .malformedLiteral _ _ column => column
  | _ => none

end Fault

/-- The wording for a name outside a vocabulary. -/
def unknownNameMessage (vocabulary name : String) : String :=
  Text.quoted name ++ " is not a valid " ++ vocabulary

end TableExport
