import Mathlib.Algebra.Order.Field.Power
import TableExport.Number.Decimal
import TableExport.Proofs.Number.Finite
import TableExport.Proofs.Number.Numeral
import TableExport.Text.Ascii
import TableExport.Text.Blank

/-! # The value of a decimal literal

A decimal literal is an optional sign, a mantissa and an optional scale; its value is written beside
it (`Decimal.Denotes`), without a reader.  Exactly the literals are read, and what is read has that
value (`Decimal.denotes_iff`).

The number that a decimal is converted to is the nearest one, however large or small the decimal is:
the two shortcuts of the conversion agree with rounding (`Decimal.exists_isNearest`).  There is such
a number as long as the decimal is in the finite range (`Decimal.toBinary64?_eq_some_iff`). -/

namespace TableExport

/-! ### Exact values -/

namespace Decimal

/-- The magnitude. -/
def magnitude (x : Decimal) : ℚ :=
  x.significand * 10 ^ x.exponent

theorem ratio_pos (x : Decimal) : 0 < x.ratio.2 := by
  unfold ratio
  split
  · exact Nat.one_pos
  · exact Nat.pow_pos (by decide)

theorem natCast_pow_ten (k : Nat) : ((Nat.pow 10 k : Nat) : ℚ) = 10 ^ (k : ℤ) := by
  rw [zpow_natCast, Nat.pow_eq, Nat.cast_pow, Nat.cast_ofNat]

theorem magnitude_eq_ratio (x : Decimal) : x.magnitude = x.ratio.1 / x.ratio.2 := by
  unfold magnitude ratio
  split
  · next hwhole =>
      obtain ⟨k, hk⟩ := Int.eq_ofNat_of_zero_le hwhole
      rw [Nat.cast_mul, natCast_pow_ten, hk, Int.toNat_natCast, Nat.cast_one, div_one]
  · next hfraction =>
      obtain ⟨k, hk⟩ := Int.eq_ofNat_of_zero_le (a := -x.exponent) (by omega)
      rw [natCast_pow_ten, hk, Int.toNat_natCast, ← neg_neg x.exponent, hk, zpow_neg,
        ← div_eq_mul_inv]

/-! ### Conversion -/

section shortcuts

variable {x : Decimal} {index : Nat}

theorem magnitude_le_of_isTiny (h : x.isTiny = true) :
    x.magnitude ≤ 10 ^ (-(330 : Nat) : ℤ) := by
  rcases Bool.or_eq_true_iff.mp h with hzero | hexponent
  · rw [magnitude, of_decide_eq_true hzero, Nat.cast_zero, zero_mul]
    positivity
  · have hdigits : (x.significand : ℚ) ≤ 10 ^ (x.significand.log2 + 1) := by
      have hlt : x.significand < 2 ^ (x.significand.log2 + 1) := Nat.lt_log2_self
      exact_mod_cast hlt.le.trans (Nat.pow_le_pow_left (by decide) _)
    have hsum := of_decide_eq_true hexponent
    calc x.magnitude ≤ 10 ^ (x.significand.log2 + 1) * 10 ^ x.exponent :=
          mul_le_mul_of_nonneg_right hdigits (by positivity)
      _ = 10 ^ ((x.significand.log2 + 1 : Nat) + x.exponent) := by
          rw [zpow_add₀ (by norm_num), zpow_natCast]
      _ ≤ 10 ^ (-(330 : Nat) : ℤ) := zpow_le_zpow_right₀ (by norm_num) (by push_cast; omega)

/-- What is below half the least positive number is rounded to zero. -/
theorem eq_zero_of_le_pow {k : Nat}
    (hnearest : Binary64.IsNearest index (x.magnitude * Binary64.unitsPerOne))
    (hle : x.magnitude ≤ 10 ^ (-(k : ℤ))) (hk : Binary64.unitsPerOne * 2 < Nat.pow 10 k) :
    index = 0 := by
  have hpos : (0 : ℚ) < (Nat.pow 10 k : Nat) := Nat.cast_pos.mpr (Nat.zero_lt_of_lt hk)
  have hlt : x.magnitude * Binary64.unitsPerOne < 1 / 2 := by
    refine (mul_le_mul_of_nonneg_right hle (Nat.cast_nonneg _)).trans_lt ?_
    rw [zpow_neg, ← natCast_pow_ten, inv_mul_eq_div, div_lt_div_iff₀ hpos two_pos, one_mul]
    exact_mod_cast hk
  by_contra hne
  have hpast := (hnearest 0).mp (Nat.pos_of_ne_zero hne)
  rw [Binary64.GoesPast, Binary64.middle_zero] at hpast
  rcases hpast with hbeyond | ⟨hon, -⟩ <;> linarith

/-- What reaches a magnitude by its exponent alone is rounded to that or to a larger one. -/
theorem le_of_le_exponent {other k : Nat}
    (hnearest : Binary64.IsNearest index (x.magnitude * Binary64.unitsPerOne))
    (hsignificand : x.significand ≠ 0) (hexponent : k ≤ x.exponent)
    (hk : Binary64.unitsAt other ≤ Nat.pow 10 k * Binary64.unitsPerOne) : other ≤ index := by
  refine hnearest.le_of_unitsAt_le ?_
  have hone : (1 : ℚ) ≤ x.significand :=
    Nat.one_le_cast.mpr (Nat.one_le_iff_ne_zero.mpr hsignificand)
  calc (Binary64.unitsAt other : ℚ) ≤ (Nat.pow 10 k : Nat) * Binary64.unitsPerOne := by
        exact_mod_cast hk
    _ ≤ x.magnitude * Binary64.unitsPerOne := by
        refine mul_le_mul_of_nonneg_right ?_ (Nat.cast_nonneg _)
        rw [natCast_pow_ten, ← one_mul ((10 : ℚ) ^ (k : ℤ))]
        exact mul_le_mul hone (zpow_le_zpow_right₀ (by norm_num) hexponent) (by positivity)
          (by positivity)

end shortcuts

/-- A decimal is converted to the nearest number, unless that is beyond the finite range. -/
theorem exists_isNearest (x : Decimal) :
    ∃ index, Binary64.IsNearest index (x.magnitude * Binary64.unitsPerOne) ∧
      x.toBinary64? = Binary64.ofIndex? x.negative index := by
  have hnearest := Binary64.isNearest_nearestIndex x.ratio.1 x.ratio_pos
  rw [← magnitude_eq_ratio] at hnearest
  refine ⟨_, hnearest, ?_⟩
  unfold toBinary64?
  split
  · next htiny =>
      rw [eq_zero_of_le_pow hnearest (magnitude_le_of_isTiny htiny) (by decide +kernel)]
  · split
    · next hhuge =>
        obtain ⟨hsignificand, hexponent⟩ := Bool.and_eq_true_iff.mp hhuge
        have hlimit : Binary64.indexLimit ≤ _ := le_of_le_exponent (k := 311) hnearest
          (of_decide_eq_true hsignificand) (of_decide_eq_true hexponent) (by decide +kernel)
        rw [Binary64.ofIndex?, dif_neg hlimit.not_gt]
    · rfl

theorem magnitude_nonneg (x : Decimal) : 0 ≤ x.magnitude := by
  unfold magnitude
  positivity

theorem abs_withSign_magnitude (negative : Bool) (x : Decimal) :
    |withSign negative x.magnitude| = x.magnitude := by
  rw [abs_withSign, abs_of_nonneg x.magnitude_nonneg]

/-- A decimal in the finite range is converted to the nearest number, with the sign of the decimal
also where that is zero. -/
theorem toBinary64?_eq_some_iff {x : Decimal} {y : Binary64} :
    x.toBinary64? = some y ↔
      x.magnitude < 2 ^ 1024 - 2 ^ 970 ∧ y.negative = x.negative ∧
        y.IsNearestTo (withSign x.negative x.magnitude) := by
  obtain ⟨index, hnearest, heq⟩ := x.exists_isNearest
  rw [heq, Binary64.ofIndex?]
  constructor
  · intro h
    obtain ⟨hindex, hsome⟩ := Option.dite_none_right_eq_some.mp h
    obtain rfl := Option.some.inj hsome
    have hlimit := hnearest.lt_indexLimit_iff.mp hindex
    exact ⟨hlimit, rfl, (Binary64.isNearestTo_iff x.magnitude_nonneg hlimit).mpr hnearest⟩
  · rintro ⟨hlimit, hsign, hy⟩
    rw [← hsign, Binary64.isNearestTo_iff x.magnitude_nonneg hlimit] at hy
    obtain rfl := hnearest.unique hy
    rw [dif_pos y.index_lt, ← hsign]

theorem exists_toBinary64?_eq_some_iff (x : Decimal) :
    (∃ y, x.toBinary64? = some y) ↔ x.magnitude < 2 ^ 1024 - 2 ^ 970 := by
  obtain ⟨index, hnearest, heq⟩ := x.exists_isNearest
  rw [heq, Binary64.ofIndex?, ← hnearest.lt_indexLimit_iff]
  constructor
  · rintro ⟨y, hy⟩
    exact (Option.dite_none_right_eq_some.mp hy).1
  · intro hindex
    exact ⟨_, dif_pos hindex⟩

end Decimal

/-! ### Literals and their values -/

namespace Decimal

/-- Digits with an optional point among or around them. -/
inductive IsMantissa : List Char → ℚ → Prop
  | whole {digits : List Char} (hne : digits ≠ []) (hdigits : Numeral.IsDigits digits) :
      IsMantissa digits (Numeral.ofDigits digits)
  | pointed {digits fraction : List Char} (hne : ¬ (digits = [] ∧ fraction = []))
      (hdigits : Numeral.IsDigits digits) (hfraction : Numeral.IsDigits fraction) :
      IsMantissa (digits ++ '.' :: fraction)
        (Numeral.ofDigits digits + Numeral.ofDigits fraction / 10 ^ fraction.length)

/-- An optional exponent. -/
inductive IsScale : List Char → ℤ → Prop
  | absent : IsScale [] 0
  | present {mark : Char} {sign digits : List Char} {negative : Bool}
      (hmark : mark = 'e' ∨ mark = 'E') (hsign : Numeral.IsSign sign negative)
      (hne : digits ≠ []) (hdigits : Numeral.IsDigits digits) :
      IsScale (mark :: (sign ++ digits)) (Numeral.signed negative (Numeral.ofDigits digits))

/-- A literal with its sign and its magnitude. -/
inductive Denotes : List Char → Bool → ℚ → Prop
  | intro {sign mantissa scale : List Char} {negative : Bool} {value : ℚ} {exponent : ℤ}
      (hsign : Numeral.IsSign sign negative) (hmantissa : IsMantissa mantissa value)
      (hscale : IsScale scale exponent) :
      Denotes (sign ++ (mantissa ++ scale)) negative (value * 10 ^ exponent)

/-- The characters of literals. -/
def isLiteralChar (c : Char) : Bool :=
  c.isDigit || c ∈ ['+', '-', '.', 'e', 'E']

/-- They are ASCII characters, and neither blanks nor separators of digits. -/
theorem isLiteralChar_spec {c : Char} (h : isLiteralChar c = true) :
    c.toNat < 128 ∧ Text.isBlank c = false ∧ c ≠ '_' := by
  have hascii : c.toNat < 128 := by
    rcases Bool.or_eq_true_iff.mp h with hdigit | hmark
    · exact Nat.lt_of_le_of_lt (Char.isDigit_iff_toNat.mp hdigit).2 (by decide)
    · have hmem := of_decide_eq_true hmark
      simp only [List.mem_cons, List.not_mem_nil, or_false] at hmem
      rcases hmem with rfl | rfl | rfl | rfl | rfl <;> decide
  refine ⟨hascii, ?_⟩
  exact Text.forall_ascii
    (p := fun c => isLiteralChar c = true → Text.isBlank c = false ∧ c ≠ '_')
    (by decide +kernel) c hascii h

section characters

variable {sign digits mantissa scale cs : List Char} {negative : Bool} {value magnitude : ℚ}
  {exponent : ℤ}

theorem isLiteralChar_of_isDigits (hdigits : Numeral.IsDigits digits) :
    ∀ c ∈ digits, isLiteralChar c = true := by
  intro c hc
  rw [isLiteralChar, hdigits c hc]
  rfl

theorem isLiteralChar_of_isSign (hsign : Numeral.IsSign sign negative) :
    ∀ c ∈ sign, isLiteralChar c = true := by
  cases hsign with
  | absent => nofun
  | plus => exact List.forall_mem_singleton.mpr (by decide)
  | minus => exact List.forall_mem_singleton.mpr (by decide)

theorem IsMantissa.isLiteralChar (h : IsMantissa mantissa value) :
    ∀ c ∈ mantissa, isLiteralChar c = true := by
  cases h with
  | whole _ hdigits => exact isLiteralChar_of_isDigits hdigits
  | pointed _ hdigits hfraction =>
      intro c hc
      rcases List.mem_append.mp hc with hdigit | hrest
      · exact isLiteralChar_of_isDigits hdigits c hdigit
      · rcases List.mem_cons.mp hrest with rfl | hdigit
        · decide
        · exact isLiteralChar_of_isDigits hfraction c hdigit

theorem IsScale.isLiteralChar (h : IsScale scale exponent) :
    ∀ c ∈ scale, isLiteralChar c = true := by
  cases h with
  | absent => nofun
  | present hmark hsign _ hdigits =>
      intro c hc
      rcases List.mem_cons.mp hc with rfl | hrest
      · rcases hmark with rfl | rfl <;> decide
      · rcases List.mem_append.mp hrest with hmember | hmember
        · exact isLiteralChar_of_isSign hsign c hmember
        · exact isLiteralChar_of_isDigits hdigits c hmember

theorem Denotes.isLiteralChar (h : Denotes cs negative magnitude) :
    ∀ c ∈ cs, isLiteralChar c = true := by
  obtain ⟨hsign, hmantissa, hscale⟩ := h
  intro c hc
  rcases List.mem_append.mp hc with hmember | hrest
  · exact isLiteralChar_of_isSign hsign c hmember
  · rcases List.mem_append.mp hrest with hmember | hmember
    · exact hmantissa.isLiteralChar c hmember
    · exact hscale.isLiteralChar c hmember

end characters

section reading

variable {mantissa scale digits rest : List Char} {value : ℚ} {exponent : ℤ}

theorem IsScale.head? (h : IsScale scale exponent) :
    ∀ c ∈ scale.head?, c.isDigit = false ∧ c ≠ '.' := by
  cases h with
  | absent => nofun
  | present hmark _ _ _ =>
      rintro _ ⟨⟩
      rcases hmark with rfl | rfl <;> decide

theorem exponent?_of_isScale (h : IsScale scale exponent) : exponent? scale = some exponent := by
  cases h with
  | absent => rfl
  | present hmark hsign hne hdigits =>
      rw [exponent?, Numeral.splitSign_append_digits hsign hne hdigits]
      exact if_pos ⟨hmark, hne, List.all_eq_true.mpr hdigits⟩

theorem IsMantissa.head?_ne (h : IsMantissa mantissa value) :
    ∀ c ∈ (mantissa ++ rest).head?, c ≠ '-' ∧ c ≠ '+' := by
  cases h with
  | whole hne hdigits => exact hdigits.head?_ne hne
  | @pointed digits fraction _ hdigits _ =>
      by_cases hempty : digits = []
      · rw [hempty]
        rintro _ ⟨⟩
        decide
      · rw [List.append_assoc]
        exact hdigits.head?_ne hempty

/-- The part of a mantissa behind the point, in places of ten. -/
theorem ofDigits_append_div (digits fraction : List Char) :
    (Numeral.ofDigits (digits ++ fraction) : ℚ) / 10 ^ fraction.length =
      Numeral.ofDigits digits + Numeral.ofDigits fraction / 10 ^ fraction.length := by
  rw [Numeral.ofDigits_append]
  push_cast
  field_simp

/-- The digits before and behind the point, read from the front of a text. -/
theorem IsMantissa.split (h : IsMantissa mantissa value)
    (hrest : ∀ c ∈ rest.head?, c.isDigit = false ∧ c ≠ '.') :
    ∃ whole fraction afterWhole,
      Numeral.splitDigits (mantissa ++ rest) = (whole, afterWhole) ∧
      splitFraction afterWhole = (fraction, rest) ∧ ¬ (whole = [] ∧ fraction = []) ∧
      value = Numeral.ofDigits (whole ++ fraction) / 10 ^ fraction.length := by
  cases h with
  | whole hne hdigits =>
      refine ⟨mantissa, [], rest, ?_, ?_, fun h => hne h.1, ?_⟩
      · exact Numeral.splitDigits_append_of_head hdigits fun c hc => (hrest c hc).1
      · cases rest with
        | nil => rfl
        | cons c cs =>
            rw [splitFraction]
            rintro _ ⟨⟩
            exact (hrest _ rfl).2 rfl
      · simp
  | @pointed digits fraction hne hdigits hfraction =>
      refine ⟨digits, fraction, '.' :: (fraction ++ rest), ?_, ?_, hne, ?_⟩
      · rw [List.append_assoc]
        refine Numeral.splitDigits_append_of_head hdigits ?_
        rintro _ ⟨⟩
        decide
      · exact Numeral.splitDigits_append_of_head hfraction fun c hc => (hrest c hc).1
      · exact (ofDigits_append_div digits fraction).symm

/-- What is split off the front of a text is a mantissa, if it has a digit. -/
theorem exists_isMantissa {cs whole afterWhole fraction : List Char}
    (hwhole : Numeral.splitDigits cs = (whole, afterWhole))
    (hfraction : splitFraction afterWhole = (fraction, rest))
    (hne : ¬ (whole = [] ∧ fraction = [])) :
    ∃ mantissa, cs = mantissa ++ rest ∧
      IsMantissa mantissa (Numeral.ofDigits (whole ++ fraction) / 10 ^ fraction.length) := by
  have hdigits := Numeral.isDigits_splitDigits cs
  have hcs := Numeral.splitDigits_append cs
  rw [hwhole] at hdigits hcs
  unfold splitFraction at hfraction
  split at hfraction
  · next tail =>
      have hfractionDigits := Numeral.isDigits_splitDigits tail
      have htail := Numeral.splitDigits_append tail
      rw [hfraction] at hfractionDigits htail
      refine ⟨whole ++ '.' :: fraction, ?_, ?_⟩
      · rw [← hcs, ← htail, List.append_assoc, List.cons_append]
      · rw [ofDigits_append_div]
        exact .pointed hne hdigits hfractionDigits
  · obtain ⟨rfl, rfl⟩ := Prod.mk.inj hfraction
    refine ⟨whole, hcs.symm, ?_⟩
    rw [ofDigits_append_div, List.length_nil, pow_zero, div_one]
    have hvalue := IsMantissa.whole (fun hempty => hne ⟨hempty, rfl⟩) hdigits
    rwa [← add_zero (Numeral.ofDigits whole : ℚ)] at hvalue

theorem isScale_of_exponent? {cs : List Char} (h : exponent? cs = some exponent) :
    IsScale cs exponent := by
  cases cs with
  | nil =>
      obtain rfl := Option.some.inj h
      exact .absent
  | cons mark rest =>
      obtain ⟨sign, hsign, hrest⟩ := Numeral.exists_eq_append_splitSign rest
      obtain ⟨⟨negative, digits⟩, hsplit⟩ : ∃ split, Numeral.splitSign rest = split := ⟨_, rfl⟩
      rw [hsplit] at hsign hrest
      simp only [exponent?, hsplit] at h
      obtain ⟨⟨hmark, hne, hdigits⟩, hvalue⟩ := Option.ite_none_right_eq_some.mp h
      obtain rfl := Option.some.inj hvalue
      rw [hrest]
      exact .present hmark hsign hne (List.all_eq_true.mp hdigits)

end reading

theorem magnitude_ofDigits (negative : Bool) (whole fraction : List Char) (exponent : Int) :
    (ofDigits negative whole fraction exponent).magnitude =
      Numeral.ofDigits (whole ++ fraction) / 10 ^ fraction.length * 10 ^ exponent := by
  rw [magnitude, ofDigits, zpow_sub₀ (by norm_num), zpow_natCast]
  ring

/-- Every literal is read as its value. -/
theorem read?_of_denotes {cs : List Char} {negative : Bool} {magnitude : ℚ}
    (h : Denotes cs negative magnitude) :
    ∃ x, read? cs = some x ∧ x.negative = negative ∧ x.magnitude = magnitude := by
  obtain @⟨sign, mantissa, scale, negative, value, exponent, hsign, hmantissa, hscale⟩ := h
  obtain ⟨whole, fraction, afterWhole, hwhole, hfraction, hne, rfl⟩ := hmantissa.split hscale.head?
  have hbody : Numeral.splitSign (sign ++ (mantissa ++ scale)) = (negative, mantissa ++ scale) :=
    Numeral.splitSign_append hsign hmantissa.head?_ne
  refine ⟨ofDigits negative whole fraction exponent, ?_, rfl, ?_⟩
  · simp only [read?, hbody, hwhole, hfraction, if_neg hne, exponent?_of_isScale hscale]
    rfl
  · exact magnitude_ofDigits negative whole fraction exponent

/-- What is read is a literal with that value. -/
theorem denotes_of_read? {cs : List Char} {x : Decimal} (h : read? cs = some x) :
    Denotes cs x.negative x.magnitude := by
  obtain ⟨sign, hsign, hcs⟩ := Numeral.exists_eq_append_splitSign cs
  unfold read? at h
  obtain ⟨⟨negative, body⟩, hsplit⟩ : ∃ split, Numeral.splitSign cs = split := ⟨_, rfl⟩
  obtain ⟨⟨whole, afterWhole⟩, hwhole⟩ : ∃ split, Numeral.splitDigits body = split := ⟨_, rfl⟩
  obtain ⟨⟨fraction, rest⟩, hfraction⟩ : ∃ split, splitFraction afterWhole = split := ⟨_, rfl⟩
  rw [hsplit] at hsign hcs
  simp only [hsplit, hwhole, hfraction] at h
  split at h
  · cases h
  · next hne =>
      obtain ⟨exponent, hexponent, rfl⟩ := Option.map_eq_some_iff.mp h
      obtain ⟨mantissa, hbody, hmantissa⟩ := exists_isMantissa hwhole hfraction hne
      rw [magnitude_ofDigits, hcs]
      show Denotes (sign ++ body) negative _
      rw [hbody]
      exact .intro hsign hmantissa (isScale_of_exponent? hexponent)

theorem denotes_iff {cs : List Char} {negative : Bool} {magnitude : ℚ} :
    Denotes cs negative magnitude ↔
      ∃ x, read? cs = some x ∧ x.negative = negative ∧ x.magnitude = magnitude := by
  refine ⟨read?_of_denotes, ?_⟩
  rintro ⟨x, hread, rfl, rfl⟩
  exact denotes_of_read? hread

end Decimal
end TableExport
