import TableExport.Table.Definition.DeclaredType
import TableExport.Table.Definition.Parts

/-! # Expressions in queries

An expression ends before the first token, outside brackets, that cannot continue it.  What can
continue depends on what is due: an operand or an operator.  Some words are operators only where
one is due, and names elsewhere.

Of an expression only its outer form counts: whether it is the name of a column, a conversion to a
type, or a query in brackets, with brackets around it and collations after it.

Main statement: the end of an expression parts the tokens, and none is lost
(`splitExpression_append`). -/

namespace TableExport.Selection

open Definition (Token splitAtClosing sameName wording)

/-- A token is one of some words. -/
def isWord (words : List String) (token : Token) : Bool :=
  token.keyword?.any words.contains

/-- A token is a mark. -/
def isMark (c : Char) (token : Token) : Bool :=
  token.symbol = .mark c

/-- A word that begins with a digit is a number. -/
def isNumber (token : Token) : Bool :=
  match token.symbol with
  | .word text => (text.toList.headD ' ').isDigit
  | _ => false

/-! ### Where an expression ends -/

/-- What is due in an expression: an operand, an operator, or the rest of one that begins with a
negation. -/
inductive Due
  | operand
  | operator
  | negated
  deriving DecidableEq, Repr

/-- A place in an expression, with the number of brackets and of case distinctions that are open. -/
structure Position where
  depth : Nat
  cases : Nat
  due : Due
  deriving DecidableEq, Repr

/-- The beginning of an expression. -/
def Position.start : Position := ⟨0, 0, .operand⟩

/-- Words between operands. -/
def operatorWords : List String :=
  ["AND", "OR", "IS", "LIKE", "GLOB", "REGEXP", "MATCH", "BETWEEN", "IN", "ESCAPE", "COLLATE"]

/-- Words that stand before an operand. -/
def openingWords : List String :=
  ["NOT", "WHEN", "DISTINCT", "FROM"]

/-- Words that begin another part of a query. -/
def clauseWords : List String :=
  ["FROM", "WHERE", "GROUP", "HAVING", "ORDER", "LIMIT", "UNION", "EXCEPT", "INTERSECT"]

/-- A token can name something. -/
def isName (token : Token) : Bool :=
  token.name?.isSome && !isNumber token && !isWord clauseWords token

/-- A token right after another one, without a gap, continues it: digits after the point of a number,
and a text after the X that makes it a value of bytes. -/
def isContinued (previous? : Option Token) (token : Token) : Bool :=
  token.gap = [] && previous?.any fun previous =>
    match token.symbol with
    | .word _ => isMark '.' previous
    | .quoted _ => isWord ["X"] previous && token.lexeme.head? = some '\x27'
    | .mark c => c = '.' && isNumber previous

/-- The place after a word where an operand is due. -/
def Position.afterOperandWord (position : Position) (token : Token) : Position :=
  if isWord ["CASE"] token then { position with cases := position.cases + 1 }
  else if isWord openingWords token then position
  else { position with due := .operator }

/-- The place after a word where an operator is due, if the expression goes on with it.  A function
can be followed by a condition in brackets and by a window. -/
def Position.afterOperatorWord? (position : Position) (previous? : Option Token) (token : Token)
    (rest : List Token) : Option Position :=
  let isCall := previous?.any (isMark ')')
  if isWord operatorWords token then some { position with due := .operand }
  else if isWord ["NOT"] token then some { position with due := .negated }
  else if isWord ["ISNULL", "NOTNULL"] token then some position
  else if position.cases > 0 ∧ isWord ["WHEN", "THEN", "ELSE"] token then
    some { position with due := .operand }
  else if position.cases > 0 ∧ isWord ["END"] token then
    some { position with cases := position.cases - 1 }
  else if isCall ∧ isWord ["OVER"] token ∧ (rest.head?.any fun next => isMark '(' next || isName next)
  then some { position with due := .operand }
  else if isCall ∧ isWord ["FILTER"] token ∧ rest.head?.any (isMark '(') then some position
  else none

/-- The place after a token outside brackets, if the expression goes on with it. -/
def Position.afterOutside? (position : Position) (previous? : Option Token) (token : Token)
    (rest : List Token) : Option Position :=
  if position.due = .operator ∧ isContinued previous? token then some position
  else
    match token.symbol, position.due with
    | .mark '(', _ => some { position with depth := 1, due := .operator }
    | .mark c, _ =>
        if c = ')' ∨ c = ',' ∨ c = ';' then none else some { position with due := .operand }
    | .quoted _, .operator => none
    | .quoted _, _ => some { position with due := .operator }
    | .word _, .operand => some (position.afterOperandWord token)
    | .word _, .operator => position.afterOperatorWord? previous? token rest
    | .word _, .negated =>
        some { position with due := if isWord ["NULL"] token then .operator else .operand }

/-- The place after a token, if the expression goes on with it. -/
def Position.next? (position : Position) (previous? : Option Token) (token : Token)
    (rest : List Token) : Option Position :=
  if position.depth = 0 then position.afterOutside? previous? token rest
  else if isMark '(' token then some { position with depth := position.depth + 1 }
  else if isMark ')' token then some { position with depth := position.depth - 1 }
  else some position

/-- The tokens that continue an expression from a place on, and the others. -/
def splitFrom : Position → Option Token → List Token → List Token × List Token
  | _, _, [] => ([], [])
  | position, previous?, token :: rest =>
      match position.next? previous? token rest with
      | none => ([], token :: rest)
      | some next =>
          let (front, left) := splitFrom next (some token) rest
          (token :: front, left)

/-- The expression at the front of tokens, and what follows it. -/
def splitExpression (tokens : List Token) : List Token × List Token :=
  splitFrom .start none tokens

/-- The spelling of an expression up to the token that follows it. -/
def spelling (expression rest : List Token) : String :=
  String.ofList
    (Text.dropTrailing Definition.isSpace (wording expression ++ (rest.head?.map Token.gap).getD []))

/-! ### Forms of expressions -/

/-- What stands in brackets at the front of tokens, with the closing bracket, if nothing follows. -/
def inBrackets? (tokens : List Token) : Option (List Token) :=
  match tokens with
  | [] => none
  | opening :: inside =>
      if isMark '(' opening ∧ (splitAtClosing 0 inside).2 = [] then some inside else none

/-- Words that begin a query. -/
def queryWords : List String :=
  ["SELECT", "VALUES", "WITH"]

/-- The query that an expression consists of. -/
def query? (expression : List Token) : Option (List Token) :=
  (inBrackets? expression).filter fun inside => inside.head?.any (isWord queryWords)

/-- The expression in brackets, unless it is a query. -/
def unbracketed? (expression : List Token) : Option (List Token) :=
  if (query? expression).isSome then none else (inBrackets? expression).map List.dropLast

/-- The expression before a collation. -/
def uncollated? (expression : List Token) : Option (List Token) :=
  match expression.reverse with
  | _ :: collate :: front => if isWord ["COLLATE"] collate then some front.reverse else none
  | _ => none

/-- Functions that say how often a condition holds, and give it back. -/
def hintNames : List String :=
  ["likely", "unlikely", "likelihood"]

/-- The condition that such a function is given. -/
def unhinted? (expression : List Token) : Option (List Token) :=
  match expression with
  | [] => none
  | name :: call =>
      if name.name?.any fun name => hintNames.any (sameName name) then
        (inBrackets? call).map fun inside => (splitExpression inside).1
      else none

/-- An expression after steps that take away what surrounds it.  The number bounds them. -/
def peel (step : List Token → Option (List Token)) : Nat → List Token → List Token
  | 0, expression => expression
  | bound + 1, expression =>
      match step expression with
      | some inner => peel step bound inner
      | none => expression

/-- An expression without brackets around it and collations after it. -/
def operand (expression : List Token) : List Token :=
  peel (fun inner => (unbracketed? inner).orElse fun _ => uncollated? inner) expression.length
    expression

/-- An expression without brackets, collations and hints. -/
def hintedOperand (expression : List Token) : List Token :=
  peel (fun inner =>
    ((unbracketed? inner).orElse fun _ => uncollated? inner).orElse fun _ => unhinted? inner)
    expression.length expression

/-- The affinity of the type to which an expression is converted.  A type without a name is numeric. -/
def conversion? (expression : List Token) : Option Affinity :=
  match expression with
  | [] => none
  | cast :: call =>
      if isWord ["CAST"] cast then
        (inBrackets? call).map fun inside =>
          .ofText (DeclaredType.quotation (wording (splitExpression inside).2.tail.dropLast))
      else none

/-! ### Names of columns -/

/-- The name of a column, perhaps with the name of its source and of the place of that. -/
structure Reference where
  schema? : Option String
  source? : Option String
  column : String
  deriving DecidableEq, Repr

/-- Words that stand for values. -/
def valueWords : List String :=
  ["NULL", "CURRENT_DATE", "CURRENT_TIME", "CURRENT_TIMESTAMP"]

/-- A token that can name a column on its own.  Numbers, values and texts cannot. -/
def isColumnName (token : Token) : Bool :=
  isName token && !isWord valueWords token && token.lexeme.head? ≠ some '\x27'

/-- The reference that an expression consists of. -/
def reference? (expression : List Token) : Option Reference :=
  match expression with
  | [column] => if isColumnName column then column.name?.map (⟨none, none, ·⟩) else none
  | [source, dot, column] =>
      if isName source ∧ isMark '.' dot then column.name?.map (⟨none, source.name?, ·⟩) else none
  | [schema, outer, source, dot, column] =>
      if isName schema ∧ isMark '.' outer ∧ isMark '.' dot then
        column.name?.map (⟨schema.name?, source.name?, ·⟩)
      else none
  | _ => none

/-! ### Given names -/

/-- Words that stand between the tables of a query. -/
def joinWords : List String :=
  ["NATURAL", "LEFT", "RIGHT", "FULL", "OUTER", "INNER", "CROSS"]

/-- A definition of windows begins with a token.  Elsewhere the word is a name. -/
def beginsWindows (tokens : List Token) : Bool :=
  match tokens with
  | window :: name :: definition :: _ =>
      isWord ["WINDOW"] window && isName name && isWord ["AS"] definition
  | _ => false

/-- A token can be a given name without a word before it. -/
def isGivenName (token : Token) (rest : List Token) : Bool :=
  isName token && !isWord (joinWords ++ ["JOIN", "ON", "USING", "INDEXED", "NOT"]) token &&
    !beginsWindows (token :: rest)

/-- The name that is given at the front of tokens, and what follows it. -/
def splitGivenName (tokens : List Token) : Option String × List Token :=
  match tokens with
  | [] => (none, [])
  | token :: rest =>
      if isWord ["AS"] token then (rest.head?.bind Token.name?, rest.tail)
      else if isGivenName token rest then (token.name?, rest)
      else (none, tokens)

/-! ### Laws -/

theorem splitFrom_append (position : Position) (previous? : Option Token) (tokens : List Token) :
    (splitFrom position previous? tokens).1 ++ (splitFrom position previous? tokens).2 = tokens := by
  induction tokens generalizing position previous? with
  | nil => rfl
  | cons token tokens ih =>
    rw [splitFrom]
    split
    · rfl
    · simp [ih]

theorem splitExpression_append (tokens : List Token) :
    (splitExpression tokens).1 ++ (splitExpression tokens).2 = tokens :=
  splitFrom_append .start none tokens

end TableExport.Selection
