import TableExport.Table.Definition.Token

/-! # Parts of statements

Brackets group the tokens of a statement.  The definitions of a table, and the columns of a key, are
the parts between the commas that stand in no inner bracket. -/

namespace TableExport.Definition

/-- The parts up to the bracket that closes them, cut at the commas outside inner brackets.  The
number is the depth of inner brackets, and the list the tokens of the part so far. -/
def parts : Nat → List Token → List Token → List (List Token)
  | _, current, [] => [current]
  | depth, current, token :: rest =>
      match token.symbol with
      | .mark '(' => parts (depth + 1) (current ++ [token]) rest
      | .mark ')' =>
          match depth with
          | 0 => [current]
          | depth + 1 => parts depth (current ++ [token]) rest
      | .mark ',' =>
          match depth with
          | 0 => current :: parts 0 [] rest
          | depth + 1 => parts (depth + 1) (current ++ [token]) rest
      | _ => parts depth (current ++ [token]) rest

/-- The tokens up to the bracket that closes the parts, and what follows it.  The number is the
depth of inner brackets. -/
def splitAtClosing : Nat → List Token → List Token × List Token
  | _, [] => ([], [])
  | depth, token :: rest =>
      match token.symbol, depth with
      | .mark '(', depth =>
          let (inside, after) := splitAtClosing (depth + 1) rest
          (token :: inside, after)
      | .mark ')', 0 => ([token], rest)
      | .mark ')', depth + 1 =>
          let (inside, after) := splitAtClosing depth rest
          (token :: inside, after)
      | _, depth =>
          let (inside, after) := splitAtClosing depth rest
          (token :: inside, after)

/-- The tokens outside brackets.  The number is the depth of brackets. -/
def outsideBrackets : Nat → List Token → List Token
  | _, [] => []
  | depth, token :: rest =>
      match token.symbol, depth with
      | .mark '(', depth => outsideBrackets (depth + 1) rest
      | .mark ')', depth => outsideBrackets (depth - 1) rest
      | _, 0 => token :: outsideBrackets 0 rest
      | _, depth + 1 => outsideBrackets (depth + 1) rest

/-- The first names of the parts in a bracket, which may stand in inner brackets; none without a
bracket at the front. -/
def namesInBrackets : List Token → List String
  | [] => []
  | token :: rest =>
      if token.symbol = .mark '(' then
        (parts 0 [] rest).filterMap fun part => part.findSome? Token.name?
      else []

/-- Two names that differ in ASCII letter case at most. -/
def sameName (first second : String) : Bool :=
  first.toList.map Char.toUpper = second.toList.map Char.toUpper

/-! ### Laws -/

theorem splitAtClosing_append (depth : Nat) (tokens : List Token) :
    (splitAtClosing depth tokens).1 ++ (splitAtClosing depth tokens).2 = tokens := by
  fun_induction splitAtClosing depth tokens <;> simp_all

theorem sameName_self (name : String) : sameName name name = true := by
  simp [sameName]

end TableExport.Definition
