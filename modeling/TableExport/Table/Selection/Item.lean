import TableExport.Table.Selection.Expression

/-! # Items of queries

A query lists what it selects: stars, which stand for columns of its sources, and expressions,
perhaps with given names. -/

namespace TableExport.Selection

open Definition (Token)

/-- What a query selects.  A star can have the name of a source before it.  An expression is kept with
its spelling. -/
inductive Item
  | star (source? : Option String)
  | value (expression : List Token) (spelling : String) (givenName? : Option String)
  deriving DecidableEq, Repr

/-- A star at the front of tokens, and what follows. -/
def splitStar? (tokens : List Token) : Option (Item × List Token) :=
  match tokens with
  | [] => none
  | star :: rest =>
      if isMark '*' star then some (.star none, rest)
      else
        match rest with
        | dot :: inner :: rest =>
            if isMark '.' dot ∧ isMark '*' inner then some (.star star.name?, rest) else none
        | _ => none

/-- An item at the front of tokens, and what follows. -/
def splitItem (tokens : List Token) : Item × List Token :=
  match splitStar? tokens with
  | some found => found
  | none =>
      let (expression, after) := splitExpression tokens
      let (givenName?, rest) := splitGivenName after
      (.value expression (spelling expression after) givenName?, rest)

/-- The items at the front of tokens, with commas between them, and what follows.  The number bounds
them. -/
def splitItemsFrom : Nat → List Token → List Item × List Token
  | 0, tokens => ([], tokens)
  | bound + 1, tokens =>
      match splitItem tokens with
      | (item, []) => ([item], [])
      | (item, token :: rest) =>
          if isMark ',' token then
            let (items, left) := splitItemsFrom bound rest
            (item :: items, left)
          else ([item], token :: rest)

/-- The items at the front of tokens, and what follows. -/
def splitItems (tokens : List Token) : List Item × List Token :=
  splitItemsFrom tokens.length tokens

end TableExport.Selection
