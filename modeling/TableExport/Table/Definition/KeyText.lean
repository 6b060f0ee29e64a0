import TableExport.Table.Definition.Phrase

/-! # Foreign keys in the text of a statement

A catalog that lists the foreign keys of a table takes their names and actions from the text of its
statement.  It looks there for the phrase with which a table declares a key, perhaps with a name for
the constraint before it, and puts the keys that it finds first.  A name in double quotation marks
reaches up to the first mark after which the phrase stands, so that it may take in other constraints
on the same line, and keys among them.  A list that the search cannot read lets it look for a later
end of what it has begun.

`KeyText.signatures` gives what the search reads: the names of columns, parent, and columns of the
parent of each key. -/

namespace TableExport.KeyText

open Phrase
open Text (isBlank)

/-! ### Names in lists -/

/-- The names in a text, with or without quotation marks.  The number counts the characters at the
front that belong to a name that was read. -/
def names : Nat → List Char → List String
  | _, [] => []
  | skipped + 1, _ :: rest => names skipped rest
  | 0, c :: rest =>
      if c = '\x22' then
        match shortest? (afterMark? some) rest with
        | some (name, _) => String.ofList name :: names (name.length + 1) rest
        | none => names 0 rest
      else if isNameChar c then
        let more := rest.takeWhile isNameChar
        String.ofList (c :: more) :: names more.length rest
      else names 0 rest

/-- Where in a list of names a character stands. -/
inductive ListPart
  | start
  | word
  | quotation (isEmpty : Bool)
  | closed
  | spaced
  | separated
  deriving DecidableEq, Repr

/-- The place after the first character of a name. -/
def ListPart.ofName? (c : Char) : Option ListPart :=
  if c = '\x22' then some (.quotation true)
  else if isNameChar c then some .word
  else none

/-- The place after a character between names: a comma comes once, with blanks around it. -/
def ListPart.between? (c : Char) : Option ListPart :=
  if isBlank c then some .spaced
  else if c = ',' then some .separated
  else none

/-- The place after a character of a list.  Commas or blanks separate the names. -/
def ListPart.next? (part : ListPart) (c : Char) : Option ListPart :=
  match part with
  | .start => if isBlank c then some .start else ofName? c
  | .word => if isNameChar c then some .word else between? c
  | .quotation isEmpty =>
      if c ≠ '\x22' then some (.quotation false)
      else if isEmpty then none
      else some .closed
  | .closed => between? c
  | .spaced => (between? c).orElse fun _ => ofName? c
  | .separated => if isBlank c then some .separated else ofName? c

/-- A list can end in a place. -/
def ListPart.isEnd (part : ListPart) : Bool :=
  match part with
  | .start | .quotation _ => false
  | .word | .closed | .spaced | .separated => true

/-- The rest of a list up to its closing bracket, and what follows. -/
def splitList? : ListPart → List Char → Option (List Char × List Char)
  | _, [] => none
  | part, c :: rest =>
      if c = ')' ∧ part.isEnd then some ([], rest)
      else
        match part.next? c with
        | some next => (splitList? next rest).map fun split => (c :: split.1, split.2)
        | none => none

/-- A list in brackets, and what follows. -/
def bracketedList? (cs : List Char) : Option (List Char × List Char) :=
  match dropBlanks cs with
  | '(' :: rest => splitList? .start rest
  | _ => none

/-! ### Keys -/

/-- A parent with a list of its columns, and what follows. -/
def parent? : List Char → Option (List Char × List Char × List Char)
  | '\x22' :: rest => shortest? (afterMark? bracketedList?) rest
  | cs =>
      match cs.takeWhile isNameChar with
      | [] => none
      | name => (bracketedList? (cs.dropWhile isNameChar)).map fun found => (name, found)

/-- What the columns of a key refer to, after the bracket that closes them. -/
def reference? (cs : List Char) : Option (List Char × List Char × List Char) :=
  match dropBlanks cs with
  | ')' :: rest => do
      let parent ← afterWord? "REFERENCES".toList (← afterBlanks? rest)
      parent? (← afterBlanks? parent)
  | _ => none

/-- The names of a key at the front of a text, and what follows. -/
def key? (cs : List Char) : Option (List String × List Char) := do
  let after ← afterWords? "FOREIGN" "KEY" cs
  match dropBlanks after with
  | '(' :: inside =>
      let (columns, parent, parentColumns, rest) ← pastBlanks? (shortest? reference?) inside
      return (names 0 columns ++ String.ofList parent :: names 0 parentColumns, rest)
  | _ => none

/-- The names of a key after the name of its constraint in double quotation marks, and what
follows. -/
def namedKey? (cs : List Char) : Option (List String × List Char) := do
  let name ← afterBlanks? (← afterWord? "CONSTRAINT".toList cs)
  let found ← afterMark? (shortest? (afterMark? fun rest => (afterBlanks? rest).bind key?)) name
  return found.2

/-- The names of each key in a text.  The number counts the characters at the front that belong to
a key that was read. -/
def signaturesFrom : Nat → List Char → List (List String)
  | _, [] => []
  | skipped + 1, _ :: rest => signaturesFrom skipped rest
  | 0, c :: rest =>
      match (namedKey? (c :: rest)).orElse fun _ => key? (c :: rest) with
      | some (key, left) => key :: signaturesFrom (rest.length - left.length) rest
      | none => signaturesFrom 0 rest

/-- The names of each key in a text. -/
def signatures (text : List Char) : List (List String) :=
  signaturesFrom 0 text

/-! ### Laws -/

theorem splitList?_eq_some {part : ListPart} {cs inside after : List Char}
    (h : splitList? part cs = some (inside, after)) : cs = inside ++ ')' :: after := by
  induction cs generalizing part inside with
  | nil => simp [splitList?] at h
  | cons c cs ih =>
    rw [splitList?] at h
    split at h
    · rename_i closed
      cases h
      simp [closed.1]
    · split at h
      · obtain ⟨rest, found, same⟩ := Option.map_eq_some_iff.1 h
        cases same
        simp [← ih found]
      · contradiction

end TableExport.KeyText
