import TableExport.Table.Selection.Source

/-! # Terms of queries

After the word for it, a query lists the terms that it reads, with commas or the words of a join
between them.  A term is a table, a query in brackets, or terms in brackets.  A given name can follow,
a hint which index to use, and a condition or the columns by which the term is joined. -/

namespace TableExport.Selection

open Definition (Token splitAtClosing namesInBrackets afterWords?)

/-- What a term reads. -/
inductive Content
  | table (schema? : Option String) (name : String)
  | query (tokens : List Token)
  | group (tokens : List Token)
  deriving DecidableEq, Repr

/-- A term of a query.  It is bare if nothing follows on its content. -/
structure Term where
  content : Content
  join : Join
  givenName? : Option String
  shared : List String
  isBare : Bool
  deriving DecidableEq, Repr

/-- What follows brackets at the front, if there are any. -/
def afterBrackets (tokens : List Token) : List Token :=
  match tokens with
  | [] => []
  | token :: rest => if isMark '(' token then (splitAtClosing 0 rest).2 else token :: rest

/-- The content of a term, and what follows.  A function is a table with arguments. -/
def splitContent? (tokens : List Token) : Option (Content × List Token) :=
  match tokens with
  | [] => none
  | token :: rest =>
      if isMark '(' token then
        let (inside, after) := splitAtClosing 0 rest
        some (if inside.head?.any (isWord queryWords) then .query inside else .group inside, after)
      else
        token.name?.map fun name =>
          match rest with
          | dot :: own :: after =>
              if isMark '.' dot then
                (.table (some name) (own.name?.getD ""), afterBrackets after)
              else (.table none name, afterBrackets rest)
          | _ => (.table none name, afterBrackets rest)

/-- What follows a hint which index to use. -/
def afterIndexHint (tokens : List Token) : List Token :=
  match afterWords? ["INDEXED", "BY"] tokens, afterWords? ["NOT", "INDEXED"] tokens with
  | some rest, _ => rest.tail
  | none, some rest => rest
  | none, none => tokens

/-- The columns by which a term is joined, and what follows them or a condition. -/
def splitShared (tokens : List Token) : List String × List Token :=
  match tokens with
  | [] => ([], [])
  | token :: rest =>
      if isWord ["ON"] token then ([], (splitExpression rest).2)
      else if isWord ["USING"] token then (namesInBrackets rest, afterBrackets rest)
      else ([], tokens)

/-- A term at the front of tokens, and what follows. -/
def splitTerm? (join : Join) (tokens : List Token) : Option (Term × List Token) :=
  (splitContent? tokens).map fun (content, afterContent) =>
    let (givenName?, afterName) := splitGivenName afterContent
    let (shared, rest) := splitShared (afterIndexHint afterName)
    ({ content, join, givenName?, shared, isBare := rest.length = afterContent.length }, rest)

/-- The join between two terms, and what follows. -/
def splitJoin? (tokens : List Token) : Option (Join × List Token) :=
  match tokens.takeWhile (isWord joinWords), tokens.dropWhile (isWord joinWords) with
  | words, separator :: rest =>
      let has (names : List String) : Bool := words.any (isWord names)
      if isMark ',' separator then some (.inner, rest)
      else if isWord ["JOIN"] separator then
        some (⟨has ["NATURAL"], has ["LEFT", "FULL"], has ["RIGHT", "FULL"]⟩, rest)
      else none
  | _, [] => none

/-- The terms at the front of tokens.  The number bounds them. -/
def termsFrom (join : Join) : Nat → List Token → List Term
  | 0, _ => []
  | bound + 1, tokens =>
      match splitTerm? join tokens with
      | none => []
      | some (term, after) =>
          match splitJoin? after with
          | none => [term]
          | some (join, rest) => term :: termsFrom join bound rest

/-- The terms at the front of tokens. -/
def terms (tokens : List Token) : List Term :=
  termsFrom .inner tokens.length tokens

end TableExport.Selection
