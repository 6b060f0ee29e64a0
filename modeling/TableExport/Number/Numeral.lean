/-! # Numerals

Integers as texts of digits.  Decimal numerals of more than `digitLimit` digits are neither written
nor read, so that a hostile number cannot cost quadratic time.

Main statements: `write?` fails exactly from `tooLong` on
(`write?_eq_none_iff`), reading the digits of a written number gives the number (`ofDigits_repr`),
and padding reaches its width (`hex_length`, `padded_length`). -/

namespace TableExport.Numeral

/-- The longest decimal numeral, in digits. -/
def digitLimit : Nat := 4300

/-- The least number whose numeral is too long: ten to the power `digitLimit`. -/
def tooLong : Nat := Nat.pow 10 digitLimit

/-- The decimal numeral of an integer, if it is not too long. -/
def write? (n : Int) : Option String :=
  if n.natAbs < tooLong then some n.repr else none

/-- The wording for a numeral that is too long. -/
def limitMessage : String :=
  "Exceeds the limit (" ++ digitLimit.repr ++ " digits) for integer string conversion"

/-- The wording for a numeral that has too many digits to be read. -/
def unreadMessage (digits : Nat) : String :=
  limitMessage ++ ": value has " ++ digits.repr
    ++ " digits; use sys.set_int_max_str_digits() to increase the limit"

/-- The number that a run of ASCII digits denotes in base ten. -/
def ofDigits (digits : List Char) : Nat :=
  Nat.ofDigitChars 10 digits 0

/-- A number with a sign. -/
def signed (negative : Bool) (n : Nat) : Int :=
  if negative then -n else n

/-- An optional sign, and what follows it. -/
def splitSign : List Char → Bool × List Char
  | '-' :: rest => (true, rest)
  | '+' :: rest => (false, rest)
  | cs => (false, cs)

/-- The longest run of ASCII digits at the front, and what follows it. -/
def splitDigits (cs : List Char) : List Char × List Char :=
  (cs.takeWhile Char.isDigit, cs.dropWhile Char.isDigit)

/-- A text without its digit separators.  An underscore separates two digits if it stands alone
between them; anywhere else it makes the text no numeral.  The first argument tells whether the
character before the text is a digit. -/
def dropSeparators? : Bool → List Char → Option (List Char)
  | _, [] => some []
  | afterDigit, '_' :: rest =>
      match rest with
      | c :: _ => if afterDigit && c.isDigit then dropSeparators? false rest else none
      | [] => none
  | _, c :: rest => (dropSeparators? c.isDigit rest).map (c :: ·)

/-- A number in lower-case hexadecimal, with leading zeros up to a width. -/
def hex (width n : Nat) : List Char :=
  let digits := Nat.toDigits 16 n
  List.replicate (width - digits.length) '0' ++ digits

/-- A number in decimal, with leading zeros up to a width. -/
def padded (width n : Nat) : List Char :=
  let digits := Nat.toDigits 10 n
  List.replicate (width - digits.length) '0' ++ digits

/-! ### Laws -/

theorem write?_eq_none_iff (n : Int) : write? n = none ↔ tooLong ≤ n.natAbs := by
  unfold write?
  split <;> simp_all

theorem ofDigits_repr (n : Nat) : ofDigits n.repr.toList = n := by
  rw [Nat.toList_repr]
  exact Nat.ofDigitChars_toDigits (by decide) (by decide)

theorem isDigit_of_mem_repr {n : Nat} {c : Char} (h : c ∈ n.repr.toList) : c.isDigit = true := by
  rw [Nat.toList_repr] at h
  exact Nat.isDigit_of_mem_toDigits (by decide) (by decide) h

theorem splitDigits_append (cs : List Char) : (splitDigits cs).1 ++ (splitDigits cs).2 = cs :=
  List.takeWhile_append_dropWhile

theorem isDigit_of_mem_splitDigits {cs : List Char} {c : Char} (h : c ∈ (splitDigits cs).1) :
    c.isDigit = true :=
  List.all_eq_true.mp List.all_takeWhile c h

/-- A text without underscores is left as it is. -/
theorem dropSeparators?_of_not_mem {cs : List Char} (h : '_' ∉ cs) (afterDigit : Bool) :
    dropSeparators? afterDigit cs = some cs := by
  induction cs generalizing afterDigit with
  | nil => rfl
  | cons c rest ih =>
      rw [List.mem_cons, not_or] at h
      rw [dropSeparators?, ih h.2]
      · rfl
      · rintro rfl
        exact h.1 rfl

theorem hex_length (width n : Nat) : width ≤ (hex width n).length := by
  simp [hex]
  omega

theorem padded_length (width n : Nat) : width ≤ (padded width n).length := by
  simp [padded]
  omega

end TableExport.Numeral
