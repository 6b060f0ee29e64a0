import Mathlib.Data.Nat.Digits.Defs
import Mathlib.Tactic.Ring
import TableExport.Number.Numeral

/-! # Signs and digits

An optional sign (`Numeral.IsSign`) and a run of ASCII digits (`Numeral.IsDigits`) are split off a
text and put back in front of it.  The number of a run of digits is what they denote in base ten
(`Numeral.ofDigits_eq`), and it has as many digits as its size needs
(`Numeral.length_toDigits_bounds`). -/

namespace TableExport.Numeral

/-- An optional sign; it is negative or not. -/
inductive IsSign : List Char → Bool → Prop
  | absent : IsSign [] false
  | plus : IsSign ['+'] false
  | minus : IsSign ['-'] true

/-- A run of ASCII digits, which may be empty. -/
def IsDigits (cs : List Char) : Prop :=
  ∀ c ∈ cs, c.isDigit = true

instance (cs : List Char) : Decidable (IsDigits cs) :=
  decidable_of_iff (cs.all Char.isDigit = true) List.all_eq_true

variable {sign digits rest : List Char} {negative : Bool}

/-! ### Splitting a text -/

theorem splitSign_append (hsign : IsSign sign negative)
    (hrest : ∀ c ∈ rest.head?, c ≠ '-' ∧ c ≠ '+') :
    splitSign (sign ++ rest) = (negative, rest) := by
  cases hsign with
  | plus => rfl
  | minus => rfl
  | absent =>
      cases rest with
      | nil => rfl
      | cons c cs =>
          obtain ⟨hminus, hplus⟩ := hrest c rfl
          rw [List.nil_append, splitSign]
          · rintro _ ⟨⟩
            exact hminus rfl
          · rintro _ ⟨⟩
            exact hplus rfl

/-- What is split off a text is a sign. -/
theorem exists_eq_append_splitSign (cs : List Char) :
    ∃ sign, IsSign sign (splitSign cs).1 ∧ cs = sign ++ (splitSign cs).2 := by
  unfold splitSign
  split
  · exact ⟨_, .minus, rfl⟩
  · exact ⟨_, .plus, rfl⟩
  · exact ⟨_, .absent, rfl⟩

theorem splitDigits_append_of_head (hdigits : IsDigits digits)
    (hrest : ∀ c ∈ rest.head?, c.isDigit = false) :
    splitDigits (digits ++ rest) = (digits, rest) := by
  have htake : rest.takeWhile Char.isDigit = [] := by
    cases rest with
    | nil => rfl
    | cons c cs => exact List.takeWhile_cons_of_neg (by simp [hrest c rfl])
  have hdrop : rest.dropWhile Char.isDigit = rest := by
    cases rest with
    | nil => rfl
    | cons c cs => exact List.dropWhile_cons_of_neg (by simp [hrest c rfl])
  rw [splitDigits, List.takeWhile_append_of_pos hdigits, List.dropWhile_append_of_pos hdigits,
    htake, hdrop, List.append_nil]

theorem isDigits_splitDigits (cs : List Char) : IsDigits (splitDigits cs).1 :=
  fun _ h => isDigit_of_mem_splitDigits h

theorem IsDigits.head?_ne (hdigits : IsDigits digits) (hne : digits ≠ []) :
    ∀ c ∈ (digits ++ rest).head?, c ≠ '-' ∧ c ≠ '+' := by
  cases digits with
  | nil => exact absurd rfl hne
  | cons c cs =>
      rintro _ ⟨⟩
      have hc := hdigits c List.mem_cons_self
      constructor <;> rintro rfl <;> simp at hc

theorem splitSign_append_digits (hsign : IsSign sign negative) (hne : digits ≠ [])
    (hdigits : IsDigits digits) : splitSign (sign ++ digits) = (negative, digits) :=
  splitSign_append hsign (List.append_nil digits ▸ hdigits.head?_ne hne)

/-! ### The number of a run of digits -/

theorem ofDigits_append (whole fraction : List Char) :
    ofDigits (whole ++ fraction) = 10 ^ fraction.length * ofDigits whole + ofDigits fraction := by
  unfold ofDigits
  rw [Nat.ofDigitChars_append, Nat.ofDigitChars_eq_ofDigitChars_zero]

/-- The digits as numbers, the lowest place first, as `Nat.digits` lists them. -/
def places (digits : List Char) : List Nat :=
  digits.reverse.map fun c => c.toNat - '0'.toNat

/-- The number of a run of digits is what they denote in base ten. -/
theorem ofDigits_eq (digits : List Char) : ofDigits digits = Nat.ofDigits 10 (places digits) := by
  induction digits with
  | nil => rfl
  | cons c rest ih =>
      have hfirst : ofDigits [c] = c.toNat - '0'.toNat := Nat.zero_add _
      have hplaces : places (c :: rest) = places rest ++ [c.toNat - '0'.toNat] := by
        rw [places, List.reverse_cons, List.map_append]
        rfl
      have hlength : (places rest).length = rest.length := by simp [places]
      rw [hplaces, Nat.ofDigits_append, Nat.ofDigits_singleton, hlength, ← ih, ← hfirst,
        Nat.add_comm]
      exact ofDigits_append [c] rest

theorem ofDigits_lt (hdigits : IsDigits digits) : ofDigits digits < 10 ^ digits.length := by
  induction digits with
  | nil => decide
  | cons c rest ih =>
      have hrest := ih fun d hd => hdigits d (List.mem_cons_of_mem c hd)
      have hfirst : ofDigits [c] ≤ 9 := by
        have hc : c.toNat ≤ 57 := (Char.isDigit_iff_toNat.mp (hdigits c List.mem_cons_self)).2
        show 10 * 0 + (c.toNat - 48) ≤ 9
        omega
      calc ofDigits (c :: rest) = 10 ^ rest.length * ofDigits [c] + ofDigits rest :=
            ofDigits_append [c] rest
        _ < 10 ^ rest.length * 9 + 10 ^ rest.length :=
            Nat.add_lt_add_of_le_of_lt (Nat.mul_le_mul_left _ hfirst) hrest
        _ = 10 ^ (c :: rest).length := by
            rw [List.length_cons, pow_succ]
            ring

/-! ### The digits of a number -/

theorem isDigits_repr (n : Nat) : IsDigits n.repr.toList := fun _ h => isDigit_of_mem_repr h

theorem repr_ne_nil (n : Nat) : n.repr.toList ≠ [] := by
  rw [Nat.toList_repr]
  exact Nat.toDigits_ne_nil

theorem toList_repr_int (n : Int) :
    n.repr.toList = (if n < 0 then ['-'] else []) ++ n.natAbs.repr.toList := by
  cases n with
  | ofNat m => rfl
  | negSucc m => simp [Int.repr, Int.negSucc_lt_zero]

theorem signed_natAbs (n : Int) : signed (decide (n < 0)) n.natAbs = n := by
  by_cases hn : n < 0
  · rw [signed, if_pos (decide_eq_true hn)]
    omega
  · rw [signed, if_neg (by simpa using hn)]
    omega

theorem isSign_minus (P : Prop) [Decidable P] : IsSign (if P then ['-'] else []) (decide P) := by
  by_cases h : P
  · rw [if_pos h, decide_eq_true h]
    exact .minus
  · rw [if_neg h, decide_eq_false h]
    exact .absent

/-- The number of digits of a number, between powers of ten. -/
theorem length_toDigits_bounds {n : Nat} (h : 0 < n) :
    10 ^ ((Nat.toDigits 10 n).length - 1) ≤ n ∧ n < 10 ^ (Nat.toDigits 10 n).length := by
  have hpos : 0 < (Nat.toDigits 10 n).length := Nat.length_toDigits_pos
  refine ⟨?_, (Nat.length_toDigits_le_iff (by decide) hpos).mp le_rfl⟩
  by_contra hlt
  rcases Nat.eq_zero_or_pos ((Nat.toDigits 10 n).length - 1) with hzero | hmore
  · rw [hzero, pow_zero] at hlt
    omega
  · have hfits := (Nat.length_toDigits_le_iff (by decide) hmore).mpr (not_le.mp hlt)
    omega

/-! ### Padded numerals -/

theorem isDigits_padded (width n : Nat) : IsDigits (padded width n) := by
  intro c h
  rcases List.mem_append.mp h with hzero | hdigit
  · rw [List.eq_of_mem_replicate hzero]
    decide
  · exact Nat.isDigit_of_mem_toDigits (by decide) (by decide) hdigit

theorem padded_ne_nil (width n : Nat) : padded width n ≠ [] :=
  List.append_ne_nil_of_right_ne_nil _ Nat.toDigits_ne_nil

theorem ofDigits_replicate_zero (n : Nat) : ofDigits (List.replicate n '0') = 0 := by
  induction n with
  | zero => rfl
  | succ n ih => exact ih

theorem ofDigits_padded (width n : Nat) : ofDigits (padded width n) = n := by
  rw [padded, ofDigits_append, ofDigits_replicate_zero, ← Nat.toList_repr, ofDigits_repr]
  simp

/-- A number of digits. -/
def IsField (width : Nat) (cs : List Char) : Prop :=
  cs.length = width ∧ IsDigits cs

/-- A number that fits is written in the width of the field. -/
theorem isField_padded {width n : Nat} (hwidth : 0 < width) (h : n < 10 ^ width) :
    IsField width (padded width n) := by
  refine ⟨?_, isDigits_padded width n⟩
  have hdigits : (Nat.toDigits 10 n).length ≤ width :=
    (Nat.length_toDigits_le_iff (by decide) hwidth).mpr h
  simp only [padded, List.length_append, List.length_replicate]
  omega

end TableExport.Numeral
