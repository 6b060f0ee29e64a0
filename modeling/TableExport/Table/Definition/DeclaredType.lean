import TableExport.Number.Numeral
import TableExport.Table.Catalog
import TableExport.Table.Definition.Affinity
import TableExport.Table.Definition.Token
import TableExport.Text.Alphanumeric
import TableExport.Text.Blank
import TableExport.Text.DecimalDigit
import TableExport.Text.UpperCase

/-! # Declared types

The type of a column is declared by words or quoted texts, and perhaps numbers in brackets.  A
catalog takes the declaration as it is spelled, gaps included, and in capitals.  The name at the
front, up to the first character that is neither part of a word nor a space, decides the generic
type: names that are known count exactly, others by what they contain (`ofName`).  So a space
before the bracket makes a known name an unknown one.

The numbers in brackets right after the name are its arguments.  One that is too long to be read
spoils the declaration (`longArgument?`). -/

namespace TableExport.DeclaredType

open Definition (Token closingMark? splitQuoted wording)

/-! ### The declaration in a statement -/

/-- The words that end the declared type of a column. -/
def constraintWords : List String :=
  ["CONSTRAINT", "PRIMARY", "NOT", "NULL", "UNIQUE", "CHECK", "DEFAULT", "COLLATE", "REFERENCES",
    "AS", "DEFERRABLE"]

/-- A token that can name a type. -/
def isNamePart (token : Token) : Bool :=
  match token.symbol, token.keyword? with
  | .mark _, _ => false
  | _, some word => !constraintWords.contains word
  | _, none => true

/-- The tokens up to a closing bracket, and it. -/
def throughBracket : List Token → List Token
  | [] => []
  | token :: rest =>
      if token.symbol = .mark ')' then [token] else token :: throughBracket rest

/-- The tokens that declare a type, at the front of what follows the name of a column. -/
def tokensAt (rest : List Token) : List Token :=
  match rest.takeWhile isNamePart, rest.dropWhile isNamePart with
  | [], _ => []
  | name, next :: more =>
      if next.symbol = .mark '(' then name ++ next :: throughBracket more else name
  | name, [] => name

/-- What a quotation at the front of a text says; any other text as it is. -/
def quotation : List Char → List Char
  | [] => []
  | c :: rest =>
      match closingMark? c with
      | none => c :: rest
      | some close => (splitQuoted close rest).1

/-- A text without the quotation marks around it, if no other opening mark stands in it. -/
def withoutMarks : List Char → List Char
  | [] => []
  | c :: rest =>
      if (closingMark? c).isSome ∧ rest.length ≥ 2 ∧
          rest.dropLast.all fun d => (closingMark? d).isNone then rest.dropLast
      else c :: rest

/-- A text without the quotation marks around it.  Of a text that only begins with a quotation, the
quotation is what remains. -/
def unquote (text : List Char) : List Char :=
  quotation (withoutMarks text)

/-- What stands before a word at the end of a text, in any letter case there, and before the white
space in front of the word. -/
def beforeWord? (word : String) (text : List Char) : Option (List Char) :=
  let front := text.take (text.length - word.length)
  if (text.drop front.length).map Char.toUpper = word.toList then
    some (Text.dropTrailing Definition.isSpace front)
  else none

/-- A declaration without words at its end that announce a computation: the last one, and perhaps
one more before it.  Shorter declarations than the two words make are kept as they are. -/
def dropAnnouncement (text : List Char) : List Char :=
  if (String.ofList text).utf8ByteSize < "GENERATED ALWAYS".utf8ByteSize then text
  else
    match beforeWord? "ALWAYS" text with
    | none => text
    | some front => (beforeWord? "GENERATED" front).getD front

/-- A text without the occurrences of a part.  The number counts the characters at the front that
belong to an occurrence. -/
def eraseAll (part : List Char) : Nat → List Char → List Char
  | _, [] => []
  | skipped + 1, _ :: rest => eraseAll part skipped rest
  | 0, c :: rest =>
      if part.isPrefixOf (c :: rest) then eraseAll part (part.length - 1) rest
      else c :: eraseAll part 0 rest

/-- What tokens declare, without words that announce a computation; none if nothing is declared. -/
def declared? (declaration : List Token) : Option (List Char) :=
  match dropAnnouncement (wording declaration) with
  | [] => none
  | text => some text

/-- The text of a declaration in capitals.  In the type of a computed column the words that announce
the computation do not count anywhere. -/
def text (isComputed : Bool) (declared? : Option (List Char)) : List Char :=
  let whole := Text.upper (unquote (declared?.getD []))
  if isComputed then
    Text.trim (eraseAll "ALWAYS".toList 0 (eraseAll "GENERATED".toList 0 whole))
  else whole

/-- A declaration is a word in capitals, in any letter case and perhaps in quotation marks. -/
def isWord (word : String) (declared? : Option (List Char)) : Bool :=
  declared?.any fun text => (withoutMarks text).map Char.toUpper = word.toList

/-- The affinity of a column by its declaration.  A strict table takes values of any kind as they
are. -/
def affinity (isStrict : Bool) (declared? : Option (List Char)) : Affinity :=
  match declared? with
  | none => .untyped
  | some text => if isStrict ∧ isWord "ANY" declared? then .untyped else .ofText (unquote text)

/-! ### The generic type -/

/-- A character of a type name. -/
def isNameChar (c : Char) : Bool :=
  c = '_' || c = ' ' || Text.isAlphanumeric c

/-- The generic type of a type name by what it contains. -/
def ofContent (name : String) : CatalogType :=
  match if name = "" then .untyped else Affinity.ofText name.toList with
  | .untyped => .untyped
  | .integer => .integer
  | .text => .text
  | .real => .float
  | .numeric => .numeric

/-- The generic type of a type name: by the name, or else by what it contains. -/
def ofName (zoned : Bool) (name : String) : CatalogType :=
  if ["BOOL", "BOOLEAN"].contains name then .boolean
  else if ["JSON", "JSONB"].contains name then .json
  else if ["DATE", "DATE_CHAR"].contains name then .date
  else if ["TIME", "TIME_CHAR"].contains name then .time
  else if ["DATETIME", "DATETIME_CHAR", "TIMESTAMP"].contains name then .dateTime zoned
  else if name = "BLOB" then .binary
  else if ["DOUBLE", "DOUBLE_PRECISION", "FLOAT", "REAL"].contains name then .float
  else ofContent name

/-- What stands in brackets on one line at the front of a text. -/
def bracketed? : List Char → Option (List Char)
  | '(' :: rest =>
      let inside := rest.takeWhile (· ≠ ')')
      if ')' ∈ rest ∧ '\n' ∉ inside then some inside else none
  | _ => none

/-- The runs of digits in a text. -/
def digitRuns : List Char → List (List Char)
  | [] => []
  | c :: rest =>
      match c.isDigit, rest.head?.map Char.isDigit, digitRuns rest with
      | false, _, runs => runs
      | true, some true, run :: runs => (c :: run) :: runs
      | true, _, runs => [c] :: runs

/-- The arguments of a type name: the numbers in the brackets that follow it, in digits of any
script.  Without a name there are none. -/
def arguments (text : List Char) : List (List Char) :=
  match text.takeWhile isNameChar, bracketed? (text.dropWhile isNameChar) with
  | _ :: _, some inside => digitRuns (Text.asciiDigits inside)
  | _, _ => []

/-- The number of digits of the first argument that is too long to be read. -/
def longArgument? (text : List Char) : Option Nat :=
  ((arguments text).map List.length).find? (Numeral.digitLimit < ·)

/-- A single argument other than zero gives a time a time zone. -/
def isZoned : List (List Char) → Bool
  | [argument] => argument.any (· ≠ '0')
  | _ => false

/-- The generic type that a text declares. -/
def ofText (text : List Char) : CatalogType :=
  ofName (isZoned (arguments text)) (String.ofList (text.takeWhile isNameChar))

/-! ### Laws -/

theorem ofName_zoned (zoned : Bool) : ofName zoned "TIMESTAMP" = .dateTime zoned := by
  cases zoned <;> rfl

theorem ofName_empty (zoned : Bool) : ofName zoned "" = .untyped := by
  cases zoned <;> rfl

end TableExport.DeclaredType
