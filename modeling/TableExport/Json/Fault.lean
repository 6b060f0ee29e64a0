/-! # Faults of JSON texts

A text that is not JSON is refused with a complaint and the place it is about.  A place is an
offset in characters together with the line and column it falls on. -/

namespace TableExport.Json

/-- What is wrong at a place of a text. -/
inductive Complaint
  | byteOrderMark
  | valueExpected
  | nameExpected
  | colonExpected
  | commaExpected
  | extraData
  | unterminatedText
  | controlCharacter
  | badEscape
  | badUnicodeEscape
  deriving DecidableEq, Repr

/-- The wording of a complaint. -/
def Complaint.message : Complaint → String
  | .byteOrderMark => "Unexpected UTF-8 BOM (decode using utf-8-sig)"
  | .valueExpected => "Expecting value"
  | .nameExpected => "Expecting property name enclosed in double quotes"
  | .colonExpected => "Expecting ':' delimiter"
  | .commaExpected => "Expecting ',' delimiter"
  | .extraData => "Extra data"
  | .unterminatedText => "Unterminated string starting at"
  | .controlCharacter => "Invalid control character at"
  | .badEscape => "Invalid \\escape"
  | .badUnicodeEscape => "Invalid \\uXXXX escape"

/-- A place in a text: lines and columns count from one, offsets from zero. -/
structure Place where
  line : Nat
  column : Nat
  offset : Nat
  deriving DecidableEq, Repr

/-- The place just after a text, in any longer text that it begins. -/
def Place.after (before : List Char) : Place :=
  ⟨before.count '\n' + 1, (before.reverse.takeWhile (· ≠ '\n')).length + 1, before.length⟩

/-- Why a text is refused. -/
inductive Fault
  | malformed (complaint : Complaint) (place : Place)
  | longInteger (digits : Nat)
  deriving DecidableEq, Repr

end TableExport.Json
