import TableExport.Text.Blank

/-! # Phrases in the text of a statement

A catalog searches the text of a statement for phrases: words in any letter case with blanks
between them.  The search knows the text only as characters, so a phrase is found in comments and
quotations too.  Of the front of a text that may be long or short, the shortest one counts after
which the rest can be read (`shortest?_eq_some`). -/

namespace TableExport.Phrase

open Text (isBlank)

/-- A letter as a capital.  Besides the small ASCII letters these are the four letters of which an
ASCII letter is the other case. -/
def capital (c : Char) : Char :=
  if c = '\u0130' ∨ c = '\u0131' then 'I'
  else if c = '\u017f' then 'S'
  else if c = '\u212a' then 'K'
  else c.toUpper

/-- A character of a name without quotation marks. -/
def isNameChar (c : Char) : Bool :=
  (capital c).isAlphanum || c = '_'

/-- What follows the blanks at the front of a text. -/
def dropBlanks (cs : List Char) : List Char :=
  cs.dropWhile isBlank

/-- What follows at least one blank at the front of a text. -/
def afterBlanks? : List Char → Option (List Char)
  | [] => none
  | c :: rest => if isBlank c then some (dropBlanks rest) else none

/-- What follows a word in capitals at the front of a text, in any letter case there. -/
def afterWord? : List Char → List Char → Option (List Char)
  | [], cs => some cs
  | _ :: _, [] => none
  | letter :: word, c :: cs => if capital c = letter then afterWord? word cs else none

/-- What follows two words with blanks between them. -/
def afterWords? (first second : String) (cs : List Char) : Option (List Char) := do
  afterWord? second.toList (← afterBlanks? (← afterWord? first.toList cs))

/-- What can be read after the blanks at the front of a text, or after fewer of them if it cannot be
read after all. -/
def pastBlanks? {α : Type} (read : List Char → Option α) : List Char → Option α
  | [] => read []
  | c :: rest =>
      if isBlank c then (pastBlanks? read rest).orElse fun _ => read (c :: rest)
      else read (c :: rest)

/-- The shortest front of a text after which the rest can be read, at least one character long and
within one line, and what is read after it. -/
def shortest? {α : Type} (read : List Char → Option α) : List Char → Option (List Char × α)
  | [] => none
  | c :: rest =>
      if c = '\n' then none
      else
        match read rest with
        | some value => some ([c], value)
        | none => (shortest? read rest).map fun found => (c :: found.1, found.2)

/-- What can be read after a closing quotation mark. -/
def afterMark? {α : Type} (read : List Char → Option α) : List Char → Option α
  | '\x22' :: rest => read rest
  | _ => none

/-! ### Laws -/

theorem shortest?_eq_some {α : Type} {read : List Char → Option α} {cs front : List Char} {value : α}
    (h : shortest? read cs = some (front, value)) :
    front ≠ [] ∧ ∃ rest, cs = front ++ rest ∧ read rest = some value := by
  induction cs generalizing front with
  | nil => simp [shortest?] at h
  | cons c cs ih =>
    rw [shortest?] at h
    split at h
    · contradiction
    · split at h
      · rename_i found
        cases h
        exact ⟨by simp, cs, rfl, found⟩
      · obtain ⟨inner, found, same⟩ := Option.map_eq_some_iff.1 h
        cases same
        obtain ⟨-, rest, split, accepted⟩ := ih found
        exact ⟨by simp, rest, by simp [← split], accepted⟩

end TableExport.Phrase
