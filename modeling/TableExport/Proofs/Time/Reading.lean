import TableExport.Proofs.Number.Numeral
import TableExport.Proofs.Time.Calendar
import TableExport.Time.UnixTime

/-! # Written moments

`UnixTime.readMoment?` reads a text `year-month-day hour:minute:second` as a date and time.  A field
is the longest run of digits, so leading zeros and the width of a field do not count.
`UnixTime.HasForm` says how such a text looks: every field has two digits, except that the year may
have another number of them.

Main statements: a written date and time is read back, unless its year is negative
(`UnixTime.readMoment?_write`), and it has the form with as many digits as its year needs
(`UnixTime.hasForm_write`). -/

namespace TableExport

namespace UnixTime

/-- The number of the digits in front, and what follows them. -/
def readNumber? (cs : List Char) : Option (Nat × List Char) :=
  match Numeral.splitDigits cs with
  | ([], _) => none
  | (digits, rest) => some (Numeral.ofDigits digits, rest)

/-- The number in front of a mark, and what follows the mark. -/
def readField? (mark : Char) (cs : List Char) : Option (Nat × List Char) :=
  match readNumber? cs with
  | some (n, c :: rest) => if c = mark then some (n, rest) else none
  | _ => none

/-- The date and time that a text denotes. -/
def readMoment? (text : String) : Option DateTime := do
  let (year, afterYear) ← readField? '-' text.toList
  let (month, afterMonth) ← readField? '-' afterYear
  let (day, afterDay) ← readField? ' ' afterMonth
  let (hour, afterHour) ← readField? ':' afterDay
  let (minute, afterMinute) ← readField? ':' afterHour
  let (second, rest) ← readNumber? afterMinute
  if rest = [] then some ⟨⟨year, month, day⟩, hour, minute, second⟩ else none

section fields

variable {digits rest : List Char}

theorem readNumber?_append (hdigits : Numeral.IsDigits digits) (hne : digits ≠ [])
    (hrest : ∀ c ∈ rest.head?, c.isDigit = false) :
    readNumber? (digits ++ rest) = some (Numeral.ofDigits digits, rest) := by
  rw [readNumber?, Numeral.splitDigits_append_of_head hdigits hrest]
  cases digits with
  | nil => exact absurd rfl hne
  | cons c cs => rfl

theorem readField?_append (hdigits : Numeral.IsDigits digits) (hne : digits ≠ []) {mark : Char}
    (hmark : mark.isDigit = false) :
    readField? mark (digits ++ mark :: rest) = some (Numeral.ofDigits digits, rest) := by
  have hrest : ∀ c ∈ (mark :: rest).head?, c.isDigit = false := by
    rintro _ ⟨⟩
    exact hmark
  rw [readField?, readNumber?_append hdigits hne hrest]
  exact if_pos rfl

theorem readField?_repr (n : Nat) {mark : Char} (hmark : mark.isDigit = false) :
    readField? mark (n.repr.toList ++ mark :: rest) = some (n, rest) := by
  rw [readField?_append (Numeral.isDigits_repr n) (Numeral.repr_ne_nil n) hmark,
    Numeral.ofDigits_repr]

theorem readField?_padded (width n : Nat) {mark : Char} (hmark : mark.isDigit = false) :
    readField? mark (Numeral.padded width n ++ mark :: rest) = some (n, rest) := by
  rw [readField?_append (Numeral.isDigits_padded _ _) (Numeral.padded_ne_nil _ _) hmark,
    Numeral.ofDigits_padded]

end fields

/-- A written date and time is read back. -/
theorem readMoment?_write (moment : DateTime) (h : 0 ≤ moment.date.year) :
    readMoment? (write moment) = some moment := by
  obtain ⟨⟨year, month, day⟩, hour, minute, second⟩ := moment
  obtain ⟨year, rfl⟩ := Int.eq_ofNat_of_zero_le h
  have htext : (write ⟨⟨year, month, day⟩, hour, minute, second⟩).toList =
      year.repr.toList ++ '-' :: (Numeral.padded 2 month ++ '-' :: (Numeral.padded 2 day ++ ' ' ::
        (Numeral.padded 2 hour ++ ':' :: (Numeral.padded 2 minute ++ ':' ::
          (Numeral.padded 2 second ++ []))))) := by
    simp [write, twoDigits, Int.repr]
  have hsecond : readNumber? (Numeral.padded 2 second ++ []) = some (second, []) := by
    rw [readNumber?_append (Numeral.isDigits_padded 2 second) (Numeral.padded_ne_nil 2 second)
      (by simp), Numeral.ofDigits_padded]
  rw [readMoment?, htext]
  simp (disch := decide) only [readField?_repr, readField?_padded, hsecond, Option.bind_eq_bind,
    Option.bind_some, if_true]

/-! ### The form -/

/-- The form `YYYY-MM-DD HH:MM:SS`, with a number of digits for the year. -/
inductive HasForm (yearWidth : Nat) (text : String) : Prop
  | intro {year month day hour minute second : List Char}
      (htext : text.toList = year ++ '-' :: (month ++ '-' :: (day ++ ' ' :: (hour ++ ':' ::
        (minute ++ ':' :: second)))))
      (hyear : Numeral.IsField yearWidth year) (hmonth : Numeral.IsField 2 month)
      (hday : Numeral.IsField 2 day) (hhour : Numeral.IsField 2 hour)
      (hminute : Numeral.IsField 2 minute) (hsecond : Numeral.IsField 2 second) :
      HasForm yearWidth text

theorem HasForm.length_eq {yearWidth : Nat} {text : String} (h : HasForm yearWidth text) :
    text.length = yearWidth + 15 := by
  obtain ⟨htext, hyear, hmonth, hday, hhour, hminute, hsecond⟩ := h
  rw [← String.length_toList, htext]
  simp only [List.length_append, List.length_cons, hyear.1, hmonth.1, hday.1, hhour.1, hminute.1,
    hsecond.1]

/-- The number of digits of a year that a text has. -/
theorem HasForm.yearWidth_unique {yearWidth other : Nat} {text : String}
    (h : HasForm yearWidth text) (h' : HasForm other text) : yearWidth = other :=
  Nat.add_right_cancel (h.length_eq.symm.trans h'.length_eq)

/-- A written date and time has two digits for every field but the year. -/
theorem hasForm_write {moment : DateTime} (hvalid : moment.IsValid) {year : Nat}
    (hyear : moment.date.year = year) :
    HasForm (Nat.toDigits 10 year).length (write moment) := by
  obtain ⟨⟨-, hmonth, -, hday⟩, hhour, hminute, hsecond⟩ := hvalid
  have hdayLimit : moment.date.day ≤ 31 := hday.trans (Date.monthLength_le _ _)
  have htext : (write moment).toList =
      Nat.toDigits 10 year ++ '-' :: (Numeral.padded 2 moment.date.month ++ '-' ::
        (Numeral.padded 2 moment.date.day ++ ' ' :: (Numeral.padded 2 moment.hour ++ ':' ::
          (Numeral.padded 2 moment.minute ++ ':' :: Numeral.padded 2 moment.second)))) := by
    simp [write, twoDigits, hyear, Int.repr]
  refine .intro htext ⟨rfl, ?_⟩ ?_ ?_ ?_ ?_ ?_
  · rw [← Nat.toList_repr]
    exact Numeral.isDigits_repr year
  all_goals exact Numeral.isField_padded (by decide) (by omega)

end UnixTime
end TableExport
