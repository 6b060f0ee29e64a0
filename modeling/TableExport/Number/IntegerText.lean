import TableExport.Number.Numeral
import TableExport.Text.Blank

/-! # Integers in texts

A text may give an integer in decimal notation, with white space around it and a sign in front.
The notation is lenient where the value is not in doubt: underscores separate digits, a point and
zeros may end the numeral, and leading zeros are dropped together with any underscores among them.
A minus sign may also stand behind the leading zeros.  No numeral has more than
`Numeral.digitLimit` significant digits.  A text that starts with a longer one, in plain notation,
is refused as too long before anything else is looked at; any other one is just unreadable.

Main statements: a numeral that starts with a digit other than zero keeps it
(`dropLeadingZeros?_of_ne_zero`), and one without underscores or a point is left as it is
(`joinGroups_of_not_mem`, `dropZeroFraction_of_not_mem`). -/

namespace TableExport.IntegerText

/-- Why a text gives no integer. -/
inductive Fault
  | unreadable
  | tooLong
  deriving DecidableEq, Repr

/-- A sign in front, and what follows it.  A plus sign takes no minus sign after it. -/
def splitSign? : List Char → Option (Bool × List Char)
  | '-' :: rest => some (true, rest)
  | '+' :: '-' :: _ => none
  | '+' :: rest => some (false, rest)
  | cs => some (false, cs)

/-- What remains after leading zeros and underscores: a numeral that starts with another digit or a
minus sign, or the last character that was passed, alone or before a point. -/
def dropZerosAfter? (last : Char) : List Char → Option (List Char)
  | [] => some [last]
  | c :: rest =>
      if c = '0' ∨ c = '_' then dropZerosAfter? c rest
      else if c.isDigit ∨ c = '-' then some (c :: rest)
      else if c = '.' then some (last :: c :: rest)
      else none

/-- A numeral without its leading zeros.  It has to start with a digit or a minus sign. -/
def dropLeadingZeros? : List Char → Option (List Char)
  | [] => none
  | c :: rest =>
      if c = '0' then dropZerosAfter? c rest
      else if c.isDigit ∨ c = '-' then some (c :: rest)
      else none

/-- A numeral without a point and zeros at its end. -/
def dropZeroFraction (cs : List Char) : List Char :=
  match cs.dropWhile (· ≠ '.') with
  | [] => cs
  | _ :: zeros =>
      if zeros ≠ [] ∧ zeros.all (· = '0') then cs.takeWhile (· ≠ '.') else cs

/-- Two underscores stand next to each other. -/
def hasDoubleSeparator : List Char → Bool
  | '_' :: '_' :: _ => true
  | _ :: rest => hasDoubleSeparator rest
  | [] => false

/-- A numeral without its underscores, if they are single and inside of it. -/
def joinGroups (cs : List Char) : List Char :=
  if cs.head? = some '_' ∨ cs.getLast? = some '_' ∨ hasDoubleSeparator cs then cs
  else cs.filter (· ≠ '_')

/-- The number that digits denote.  A zero stands alone. -/
def magnitude? : List Char → Option Nat
  | ['0'] => some 0
  | '0' :: _ => none
  | digits =>
      if digits ≠ [] ∧ digits.all Char.isDigit ∧ digits.length ≤ Numeral.digitLimit then
        some (Numeral.ofDigits digits)
      else none

/-- The integer of a numeral whose sign in front is known: a minus sign may still be inside. -/
def signedBy? (negative : Bool) : List Char → Option Int
  | '-' :: rest => if negative then none else (magnitude? rest).map (Numeral.signed true)
  | cs => (magnitude? cs).map (Numeral.signed negative)

/-- The integer that a text gives in lenient notation. -/
def lenient? (cs : List Char) : Option Int := do
  let (negative, body) ← splitSign? (Text.trimBy Text.isSpace cs)
  let numeral ← dropLeadingZeros? body
  signedBy? negative (joinGroups (dropZeroFraction numeral))

/-- A text starts with digits, the first one not zero, that are too many for a numeral. -/
def startsTooLong (cs : List Char) : Bool :=
  cs.head? ≠ some '0' && Numeral.digitLimit < (cs.takeWhile Char.isDigit).length

/-- The integer that a text gives. -/
def read (text : String) : Except Fault Int :=
  let unsigned := match text.toList with
    | '-' :: rest => rest
    | cs => cs
  if startsTooLong unsigned then .error .tooLong
  else
    match lenient? text.toList with
    | some value => .ok value
    | none => .error .unreadable

/-! ### Laws -/

theorem dropLeadingZeros?_of_ne_zero {c : Char} {cs : List Char} (hc : c.isDigit = true)
    (h : c ≠ '0') : dropLeadingZeros? (c :: cs) = some (c :: cs) := by
  simp [dropLeadingZeros?, hc, h]

theorem joinGroups_of_not_mem {cs : List Char} (h : '_' ∉ cs) : joinGroups cs = cs := by
  unfold joinGroups
  split
  · rfl
  · exact List.filter_eq_self.2 fun c hc => by
      have : c ≠ '_' := fun e => h (e ▸ hc)
      simpa using this

theorem dropZeroFraction_of_not_mem {cs : List Char} (h : '.' ∉ cs) : dropZeroFraction cs = cs := by
  have noPoint : cs.dropWhile (· ≠ '.') = [] := by
    induction cs with
    | nil => rfl
    | cons c rest ih =>
      rw [List.mem_cons, not_or] at h
      simpa [Ne.symm h.1] using ih h.2
  simp only [dropZeroFraction, noPoint]

end TableExport.IntegerText
