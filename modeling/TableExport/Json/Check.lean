import TableExport.Json.Problem
import TableExport.Json.Value
import TableExport.Number.IntegerText

/-! # Checking JSON data

A check turns a JSON value into a value of a domain type or reports every problem it has.  Checks
of independent parts are combined with `<*>`, which reports the problems of both.

Some spellings are accepted besides the plain ones: a truth value may be one of the numbers 0 and 1
or one of a few words, and an integer may be a truth value, a number without a fraction that 64 bits
can hold, or a numeral in a text. -/

namespace TableExport.Json

/-- The outcome of a check: a value, or the problems that were found. -/
inductive Checked (α : Type)
  | accepted (value : α)
  | rejected (problems : List Problem)
  deriving Repr

namespace Checked

variable {α β : Type}

/-- The outcome for a value computed from an accepted one. -/
def map (f : α → β) : Checked α → Checked β
  | .accepted value => .accepted (f value)
  | .rejected problems => .rejected problems

/-- The outcome for two parts: the problems of both are reported. -/
def combine : Checked (α → β) → Checked α → Checked β
  | .accepted f, .accepted value => .accepted (f value)
  | .accepted _, .rejected problems => .rejected problems
  | .rejected problems, .accepted _ => .rejected problems
  | .rejected problems, .rejected more => .rejected (problems ++ more)

instance : Applicative Checked where
  pure := .accepted
  map := map
  seq f value := combine f (value ())

/-- The outcome of a part, seen from the whole. -/
def under (segment : Segment) : Checked α → Checked α
  | .accepted value => .accepted value
  | .rejected problems => .rejected (problems.map (·.under segment))

/-- The rejection of a value as a whole. -/
def reject (mismatch : Mismatch) : Checked α :=
  .rejected [⟨[], mismatch⟩]

/-- The outcome for parts that are numbered from a position on. -/
def allFrom (position : Nat) : List (Checked α) → Checked (List α)
  | [] => .accepted []
  | outcome :: rest =>
      combine (map List.cons (outcome.under (.position position))) (allFrom (position + 1) rest)

end Checked

namespace Check

/-! ### Scalars -/

/-- A text. -/
def text : Value → Checked String
  | .text value => .accepted value
  | _ => .reject .notText

/-- A text or nothing. -/
def optionalText : Value → Checked (Option String)
  | .null => .accepted none
  | value => (text value).map some

/-- One of the named alternatives. -/
def choice {α : Type} (names : List (String × α)) : Value → Checked α
  | .text name =>
      match names.lookup name with
      | some value => .accepted value
      | none => .reject (.notAChoice (names.map Prod.fst))
  | _ => .reject (.notAChoice (names.map Prod.fst))

/-- The words for false. -/
def falseWords : List String := ["0", "off", "f", "false", "n", "no"]

/-- The words for true. -/
def trueWords : List String := ["1", "on", "t", "true", "y", "yes"]

/-- A truth value in words, in any ASCII letter case. -/
def truthWord? (word : String) : Option Bool :=
  let lower := String.ofList (word.toList.map Char.toLower)
  if lower ∈ falseWords then some false
  else if lower ∈ trueWords then some true
  else none

/-- The least signed integer of 64 bits. -/
def leastWord : Int := -9223372036854775808

/-- The greatest signed integer of 64 bits. -/
def greatestWord : Int := 9223372036854775807

/-- The value of a number without a fraction, strictly inside the range of 64 bits. -/
def wordOfReal? (value : Binary64) : Option Int :=
  value.toInt?.filter fun whole => leastWord < whole ∧ whole ≤ greatestWord

/-- A truth value. -/
def truthValue : Value → Checked Bool
  | .bool value => .accepted value
  | .integer value =>
      if value = 0 then .accepted false
      else if value = 1 then .accepted true
      else if leastWord ≤ value ∧ value ≤ greatestWord then .reject .unreadableTruthValue
      else .reject .notATruthValue
  | .real value =>
      match wordOfReal? value with
      | some 0 => .accepted false
      | some 1 => .accepted true
      | some _ => .reject .unreadableTruthValue
      | none => .reject .notATruthValue
  | .text word =>
      match truthWord? word with
      | some value => .accepted value
      | none => .reject .unreadableTruthValue
  | _ => .reject .notATruthValue

/-- An integer: of any size, unless it is written as a number with a point or an exponent. -/
def integer : Value → Checked Int
  | .integer value => .accepted value
  | .bool value => .accepted (if value then 1 else 0)
  | .real value =>
      if value.toInt? = none then .reject .fraction
      else
        match wordOfReal? value with
        | some whole => .accepted whole
        | none => .reject .oversizeInteger
  | .nonFinite => .reject .notFinite
  | .text numeral =>
      match IntegerText.read numeral with
      | .ok value => .accepted value
      | .error .unreadable => .reject .unreadableInteger
      | .error .tooLong => .reject .oversizeInteger
  | _ => .reject .notAnInteger

/-! ### Lists and objects -/

/-- A list whose elements pass a check. -/
def listOf {α : Type} (check : Value → Checked α) : Value → Checked (List α)
  | .list items => Checked.allFrom 0 (items.map check)
  | _ => .reject .notAList

/-- The members of an object. -/
abbrev Members := List (String × Value)

/-- A member that must be there. -/
def required {α : Type} (name : String) (check : Value → Checked α) (members : Members) :
    Checked α :=
  match members.lookup name with
  | some value => (check value).under (.name name)
  | none => (Checked.reject .missing).under (.name name)

/-- A member with a default. -/
def optional {α : Type} (name : String) (fallback : α) (check : Value → Checked α)
    (members : Members) : Checked α :=
  match members.lookup name with
  | some value => (check value).under (.name name)
  | none => .accepted fallback

/-- No member has a name outside a list. -/
def onlyNames (names : List String) (members : Members) : Checked Unit :=
  let unknown := members.filter fun member => !names.contains member.1
  if unknown.isEmpty then .accepted ()
  else .rejected (unknown.map fun member => ⟨[.name member.1], .unknownName⟩)

/-- An object with given member names whose members pass a check. -/
def record {α : Type} (model : String) (names : List String) (check : Members → Checked α) :
    Value → Checked α
  | .object members =>
      Checked.combine (Checked.map (fun value _ => value) (check members))
        (onlyNames names members)
  | _ => .reject (.notAnObject model)

end Check
end TableExport.Json
