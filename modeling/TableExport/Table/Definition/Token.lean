/-! # Tokens of SQL statements

A statement is a sequence of words, quoted names, and marks.  Blanks and comments may stand before
each of them.  A token keeps the characters it was cut from, and the gap before it, because a
declared type is taken from a statement as it is spelled there.

Main statement: nothing is lost, since what the tokens keep and what follows them make up the text
(`spelled_append_rest`). -/

namespace TableExport.Definition

/-- What a token stands for.  A quoted text may name something wherever a word may. -/
inductive Symbol
  | word (text : String)
  | quoted (text : String)
  | mark (c : Char)
  deriving DecidableEq, Repr

/-- A token with its own characters and the blanks and comments before them. -/
structure Token where
  gap : List Char
  lexeme : List Char
  symbol : Symbol
  deriving DecidableEq, Repr

/-! ### Gaps -/

/-- ASCII white space. -/
def isSpace (c : Char) : Bool :=
  c = ' ' || c = '\t' || c = '\n' || c = '\x0b' || c = '\x0c' || c = '\r'

/-- A character that separates tokens and means nothing else.  A byte order mark is one. -/
def isBlank (c : Char) : Bool :=
  isSpace c || c = '\ufeff'

/-- Where in a gap a character stands. -/
inductive GapPart
  | blanks
  | lineComment
  | blockComment
  deriving DecidableEq, Repr

/-- The length of the gap that continues at the front of a text. -/
def gapLength : GapPart → List Char → Nat
  | _, [] => 0
  | .blanks, '-' :: '-' :: rest => gapLength .lineComment rest + 2
  | .blanks, '/' :: '*' :: rest => gapLength .blockComment rest + 2
  | .blanks, c :: rest => if isBlank c then gapLength .blanks rest + 1 else 0
  | .lineComment, c :: rest =>
      gapLength (if c = '\n' then .blanks else .lineComment) rest + 1
  | .blockComment, '*' :: '/' :: rest => gapLength .blanks rest + 2
  | .blockComment, _ :: rest => gapLength .blockComment rest + 1

/-! ### Words and quotations -/

/-- A character of a word. -/
def isWordChar (c : Char) : Bool :=
  c.isAlphanum || c = '_' || c = '$' || c.toNat ≥ 0x80

/-- The mark that closes a quotation opened by a character. -/
def closingMark? : Char → Option Char
  | '\x22' => some '\x22'
  | '\x60' => some '\x60'
  | '[' => some ']'
  | '\x27' => some '\x27'
  | _ => none

/-- The text up to a closing mark, and what follows it; inside, the mark is written twice. -/
def splitQuoted (close : Char) : List Char → List Char × List Char
  | [] => ([], [])
  | [c] => if c = close then ([], []) else ([c], [])
  | c :: next :: rest =>
      if c = close then
        if next = close then
          let (text, left) := splitQuoted close rest
          (close :: text, left)
        else ([], next :: rest)
      else
        let (text, left) := splitQuoted close (next :: rest)
        (c :: text, left)

/-- What a token stands for that starts with a character, and how many characters after the first
one belong to it. -/
def symbolAt (c : Char) (rest : List Char) : Symbol × Nat :=
  if isWordChar c then
    let more := rest.takeWhile isWordChar
    (.word (String.ofList (c :: more)), more.length)
  else
    match closingMark? c with
    | some close =>
        let (text, left) := splitQuoted close rest
        (.quoted (String.ofList text), rest.length - left.length)
    | none => (.mark c, 0)

/-! ### Statements -/

/-- The tokens at the front of a text, and what follows them.  The number bounds the tokens. -/
def splitTokens : Nat → List Char → List Token × List Char
  | 0, cs => ([], cs)
  | bound + 1, cs =>
      let gap := gapLength .blanks cs
      match cs.drop gap with
      | [] => ([], cs)
      | c :: rest =>
          let (symbol, count) := symbolAt c rest
          let (tokens, left) := splitTokens bound (rest.drop count)
          (⟨cs.take gap, c :: rest.take count, symbol⟩ :: tokens, left)

/-- The tokens of a statement. -/
def tokens (statement : String) : List Token :=
  (splitTokens statement.length statement.toList).1

/-- The characters that tokens were cut from. -/
def spelled (tokens : List Token) : List Char :=
  tokens.flatMap fun token => token.gap ++ token.lexeme

/-- The characters that tokens were cut from, without the gap before the first one. -/
def wording : List Token → List Char
  | [] => []
  | token :: rest => token.lexeme ++ spelled rest

namespace Token

/-- A word in capitals; any other token is none. -/
def keyword? (token : Token) : Option String :=
  match token.symbol with
  | .word text => some (String.ofList (text.toList.map Char.toUpper))
  | _ => none

/-- The name that a token gives to a table or a column. -/
def name? (token : Token) : Option String :=
  match token.symbol with
  | .word text => some text
  | .quoted text => some text
  | .mark _ => none

end Token

/-- The tokens after a sequence of words at the front, if the text begins with them. -/
def afterWords? : List String → List Token → Option (List Token)
  | [], rest => some rest
  | _ :: _, [] => none
  | word :: words, token :: rest =>
      if token.keyword? = some word then afterWords? words rest else none

/-- The tokens after the first place where a sequence of words stands. -/
def afterFirst? (words : List String) : List Token → Option (List Token)
  | [] => none
  | token :: rest =>
      match afterWords? words (token :: rest) with
      | some after => some after
      | none => afterFirst? words rest

/-- A sequence of words stands somewhere. -/
def hasWords (words : List String) (tokens : List Token) : Bool :=
  (afterFirst? words tokens).isSome

/-! ### Laws -/

theorem spelled_append_rest (bound : Nat) (cs : List Char) :
    spelled (splitTokens bound cs).1 ++ (splitTokens bound cs).2 = cs := by
  induction bound generalizing cs with
  | zero => rfl
  | succ bound ih =>
    rw [splitTokens]
    cases front : cs.drop (gapLength .blanks cs) with
    | nil => rfl
    | cons c rest =>
      have whole := List.take_append_drop (gapLength .blanks cs) cs
      rw [front] at whole
      have left := ih (rest.drop (symbolAt c rest).2)
      simp only [spelled, List.flatMap_cons, List.append_assoc, List.cons_append] at left ⊢
      rw [left, List.take_append_drop, whole]

end TableExport.Definition
