import Mathlib.Algebra.Order.Field.Power
import TableExport.Proofs.Number.Nearest

/-! # Finite binary64 numbers as fractions

A finite binary64 number is a whole number of up to 53 binary digits with a sign, moved by a power
of two between `2 ^ (-1074)` and `2 ^ 971` (`Binary64.toRat`, `Binary64.exists_toRat_eq_iff`).

A number is the nearest one to a value if no other is nearer, and it is even if another one is as
near (`Binary64.IsNearestTo`).  Rounding finds this number as long as the value is in the finite
range (`Binary64.isNearestTo_iff`), which ends half way behind the largest number
(`Binary64.IsNearest.lt_indexLimit_iff`). -/

namespace TableExport

/-- A magnitude with a sign. -/
def withSign (negative : Bool) (magnitude : ℚ) : ℚ :=
  if negative then -magnitude else magnitude

theorem abs_withSign (negative : Bool) (magnitude : ℚ) :
    |withSign negative magnitude| = |magnitude| := by
  unfold withSign
  split
  · exact abs_neg magnitude
  · rfl

theorem withSign_sub_withSign (negative : Bool) (magnitude other : ℚ) :
    |withSign negative magnitude - withSign negative other| = |magnitude - other| := by
  unfold withSign
  split
  · rw [neg_sub_neg, abs_sub_comm]
  · rfl

theorem withSign_eq_neg {negative negative' : Bool} {magnitude : ℚ}
    (h : withSign negative' magnitude ≠ withSign negative magnitude) :
    withSign negative' magnitude = -withSign negative magnitude := by
  unfold withSign at *
  cases negative <;> cases negative' <;> simp_all

theorem withSign_abs (value : ℚ) : withSign (decide (value < 0)) |value| = value := by
  unfold withSign
  by_cases hnegative : value < 0
  · rw [if_pos (decide_eq_true hnegative), abs_of_neg hnegative, neg_neg]
  · rw [if_neg (by simpa using hnegative), abs_of_nonneg (not_lt.mp hnegative)]

namespace Binary64

/-! ### The value of a number -/

/-- The binary digits of a number: 53 of them with the leading one, up to 52 below the first normal
binade. -/
def significand (x : Binary64) : Nat :=
  if x.index < binadeSize then x.index else binadeSize + x.index % binadeSize

/-- The power of two that the binary digits are moved by. -/
def exponent (x : Binary64) : ℤ :=
  (x.index / binadeSize - 1 : Nat) - 1074

/-- The value of a number. -/
def toRat (x : Binary64) : ℚ :=
  withSign x.negative (x.significand * 2 ^ x.exponent)

variable {x y : Binary64}

theorem significand_lt (x : Binary64) : x.significand < 2 ^ 53 := by
  have hplace : x.index % binadeSize < binadeSize := Nat.mod_lt _ (by decide)
  unfold significand binadeSize at *
  split <;> omega

theorem exponent_mem (x : Binary64) : -1074 ≤ x.exponent ∧ x.exponent ≤ 971 := by
  have hbinade : x.index / binadeSize < 2047 := (Nat.div_lt_iff_lt_mul (by decide)).mpr x.index_lt
  unfold exponent
  omega

theorem significand_mod_two (x : Binary64) : x.significand % 2 = x.index % 2 := by
  unfold significand binadeSize
  split <;> omega

theorem units_eq_significand (x : Binary64) :
    x.units = x.significand * 2 ^ (x.index / binadeSize - 1) := by
  unfold units unitsAt significand
  by_cases hsmall : x.index < 2 * binadeSize
  · have hbinade : x.index / binadeSize - 1 = 0 := by
      have hlt : x.index / binadeSize < 2 := (Nat.div_lt_iff_lt_mul (by decide)).mpr hsmall
      omega
    rw [if_pos hsmall, hbinade, pow_zero, mul_one]
    unfold binadeSize at *
    split <;> omega
  · rw [if_neg hsmall, if_neg (by omega), Nat.pow_eq]

theorem cast_unitsPerOne_eq_zpow : (unitsPerOne : ℚ) = 2 ^ (1074 : ℤ) := by
  rw [zpow_ofNat, unitsPerOne_eq rfl, Nat.cast_pow, Nat.cast_ofNat]

theorem significand_mul_zpow (x : Binary64) :
    (x.significand : ℚ) * 2 ^ x.exponent = magnitudeAt x.index := by
  have hunits : unitsAt x.index = x.significand * 2 ^ (x.index / binadeSize - 1) :=
    x.units_eq_significand
  rw [magnitudeAt, hunits, cast_unitsPerOne_eq_zpow, exponent, zpow_sub₀ two_ne_zero, zpow_natCast,
    Nat.cast_mul, Nat.cast_pow, Nat.cast_ofNat, mul_div_assoc]

theorem toRat_eq (x : Binary64) : x.toRat = withSign x.negative (magnitudeAt x.index) := by
  rw [toRat, significand_mul_zpow]

theorem magnitudeAt_nonneg (index : Nat) : 0 ≤ magnitudeAt index :=
  div_nonneg (Nat.cast_nonneg _) (Nat.cast_nonneg _)

theorem abs_toRat (x : Binary64) : |x.toRat| = magnitudeAt x.index := by
  rw [toRat_eq, abs_withSign, abs_of_nonneg (magnitudeAt_nonneg _)]

theorem magnitudeAt_strictMono : StrictMono magnitudeAt := by
  intro index other h
  exact div_lt_div_of_pos_right (cast_unitsAt_lt h) cast_unitsPerOne_pos

/-- The number behind the largest finite one, if there were one. -/
theorem unitsAt_indexLimit {k : Nat} (h : k = 2045) :
    unitsAt indexLimit = 2 * binadeSize * 2 ^ k := by
  have hindex : indexLimit = k * binadeSize + 2 * binadeSize := by
    unfold indexLimit binadeSize
    omega
  rw [hindex, unitsAt_binade (.inr (by decide)) le_rfl]

/-- The values of the numbers are all the whole numbers of up to 53 binary digits, moved by the
powers of two in range. -/
theorem exists_toRat_eq_iff {value : ℚ} :
    (∃ x : Binary64, x.toRat = value) ↔
      ∃ (significand : Nat) (exponent : ℤ), significand < 2 ^ 53 ∧ -1074 ≤ exponent ∧
        exponent ≤ 971 ∧ |value| = significand * 2 ^ exponent := by
  constructor
  · rintro ⟨x, rfl⟩
    exact ⟨x.significand, x.exponent, x.significand_lt, x.exponent_mem.1, x.exponent_mem.2, by
      rw [abs_toRat, significand_mul_zpow]⟩
  · rintro ⟨significand, exponent, hsignificand, hlow, hhigh, habs⟩
    obtain ⟨binade, hbinade⟩ := Int.eq_ofNat_of_zero_le (a := exponent + 1074) (by omega)
    obtain rfl : exponent = binade - 1074 := by omega
    have hdigits : significand < 2 * binadeSize := hsignificand
    obtain ⟨index, hindex⟩ := exists_unitsAt_eq hdigits.le binade
    obtain ⟨last, hlast⟩ : ∃ last, last = 2045 := ⟨_, rfl⟩
    have hlimit : index < indexLimit := by
      rw [← unitsAt_strictMono.lt_iff_lt, hindex, unitsAt_indexLimit hlast]
      exact Nat.mul_lt_mul_of_lt_of_le hdigits (Nat.pow_le_pow_right two_pos (by omega))
        (Nat.pow_pos two_pos)
    have hmagnitude : magnitudeAt index = |value| := by
      rw [magnitudeAt, hindex, habs, cast_unitsPerOne_eq_zpow, zpow_sub₀ two_ne_zero, zpow_natCast,
        Nat.cast_mul, Nat.cast_pow, Nat.cast_ofNat, mul_div_assoc]
    refine ⟨⟨decide (value < 0), index, hlimit⟩, ?_⟩
    rw [toRat_eq, hmagnitude, withSign_abs]

/-! ### Distances -/

section distances

variable {low high value : ℚ}

theorem abs_sub_low_le_iff (h : low < high) :
    |value - low| ≤ |value - high| ↔ value ≤ (low + high) / 2 := by
  rw [← sq_le_sq]
  constructor <;> intro hle <;> nlinarith

theorem abs_sub_high_le_iff (h : low < high) :
    |value - high| ≤ |value - low| ↔ (low + high) / 2 ≤ value := by
  rw [← sq_le_sq]
  constructor <;> intro hle <;> nlinarith

end distances

section rounding

variable {index other : Nat} {value magnitude : ℚ}

namespace IsNearest

theorem middle_le (h : IsNearest index value) (hlt : other < index) :
    (unitsAt other + unitsAt index) / 2 ≤ value ∧
      (value = (unitsAt other + unitsAt index) / 2 → index % 2 = 0) := by
  obtain ⟨before, rfl⟩ := Nat.exists_eq_succ_of_ne_zero (Nat.ne_zero_of_lt hlt)
  have hhalf : ((unitsAt other : ℚ) + unitsAt (before + 1)) / 2 ≤ middle before := by
    have hunits := cast_unitsAt_le (Nat.le_of_lt_succ hlt)
    unfold middle
    linarith
  rcases (h before).mp (Nat.lt_succ_self before) with hbeyond | ⟨hon, hodd⟩
  · exact ⟨hhalf.trans hbeyond.le, fun heq => absurd (hhalf.trans_lt hbeyond) heq.not_gt⟩
  · exact ⟨hon ▸ hhalf, fun _ => by omega⟩

theorem le_middle (h : IsNearest index value) (hlt : index < other) :
    value ≤ (unitsAt index + unitsAt other) / 2 ∧
      (value = (unitsAt index + unitsAt other) / 2 → index % 2 = 0) := by
  have hhalf : middle index ≤ ((unitsAt index : ℚ) + unitsAt other) / 2 := by
    have hunits := cast_unitsAt_le (Nat.succ_le_of_lt hlt)
    unfold middle
    linarith
  have hstay : ¬ GoesPast index value := fun hpast => ((h index).mpr hpast).ne rfl
  rw [GoesPast, not_or, not_lt] at hstay
  obtain ⟨hle, heven⟩ := hstay
  refine ⟨hle.trans hhalf, fun heq => ?_⟩
  have hon : middle index = value := le_antisymm (heq ▸ hhalf) hle
  exact Nat.mod_two_ne_one.mp fun hodd => heven ⟨hon, hodd⟩

/-- No magnitude is nearer. -/
theorem dist_le (h : IsNearest index value) (other : Nat) :
    |value - unitsAt index| ≤ |value - unitsAt other| := by
  rcases lt_trichotomy other index with hlt | rfl | hlt
  · exact (abs_sub_high_le_iff (cast_unitsAt_lt hlt)).mpr (h.middle_le hlt).1
  · exact le_rfl
  · exact (abs_sub_low_le_iff (cast_unitsAt_lt hlt)).mpr (h.le_middle hlt).1

/-- If another magnitude is as near, this one has an even index. -/
theorem even_of_dist_eq (h : IsNearest index value) (hne : other ≠ index)
    (heq : |value - unitsAt other| = |value - unitsAt index|) : index % 2 = 0 := by
  rcases hne.lt_or_gt with hlt | hlt
  · obtain ⟨hge, heven⟩ := h.middle_le hlt
    exact heven (le_antisymm ((abs_sub_low_le_iff (cast_unitsAt_lt hlt)).mp heq.le) hge)
  · obtain ⟨hle, heven⟩ := h.le_middle hlt
    exact heven (le_antisymm hle ((abs_sub_high_le_iff (cast_unitsAt_lt hlt)).mp heq.le))

end IsNearest

/-- A finite magnitude is the nearest one if no other finite one is nearer, and if it is even as
soon as another one is as near. -/
theorem isNearest_of_dist_le (hindex : index < indexLimit)
    (hvalue : value < middle (indexLimit - 1))
    (hdist : ∀ other < indexLimit, |value - unitsAt index| ≤ |value - unitsAt other|)
    (heven : ∀ other < indexLimit, other ≠ index →
      |value - unitsAt other| = |value - unitsAt index| → index % 2 = 0) :
    IsNearest index value := by
  refine isNearest_of_goesPast ?_ ?_
  · rintro before rfl
    have hbefore : before < indexLimit := Nat.lt_of_succ_lt hindex
    have hunits : (unitsAt before : ℚ) < unitsAt (before + 1) := cast_unitsAt_lt before.lt_succ_self
    have hle : middle before ≤ value := (abs_sub_high_le_iff hunits).mp (hdist before hbefore)
    refine hle.lt_or_eq.imp_right fun hon => ⟨hon, ?_⟩
    have htie := (abs_sub_low_le_iff hunits).mpr hon.ge
    have := heven before hbefore before.lt_succ_self.ne (htie.antisymm (hdist before hbefore))
    omega
  · rcases (Nat.succ_le_of_lt hindex).eq_or_lt with hlast | hnext
    · -- there is no next magnitude to compare with, but the value ends before the range does
      rw [← hlast, Nat.succ_sub_one] at hvalue
      rintro (hbeyond | ⟨hon, -⟩)
      · exact hbeyond.not_gt hvalue
      · exact hvalue.ne hon.symm
    · have hunits : (unitsAt index : ℚ) < unitsAt (index + 1) := cast_unitsAt_lt index.lt_succ_self
      have hle : value ≤ middle index := (abs_sub_low_le_iff hunits).mp (hdist _ hnext)
      rintro (hbeyond | ⟨hon, hodd⟩)
      · exact hbeyond.not_ge hle
      · have htie := (abs_sub_high_le_iff hunits).mpr hon.le
        have := heven _ hnext index.lt_succ_self.ne' (htie.antisymm (hdist _ hnext))
        omega

/-! ### The finite range -/

/-- Half way behind the largest number. -/
theorem middle_last : middle (indexLimit - 1) = (2 ^ 1024 - 2 ^ 970) * unitsPerOne := by
  obtain ⟨binade, hbinade⟩ : ∃ binade, binade = 970 + 1074 + 1 := ⟨_, rfl⟩
  have hindex : indexLimit - 1 = binade * binadeSize + (2 * binadeSize - 1) := by
    unfold indexLimit binadeSize
    omega
  have hplace : ((2 * binadeSize - 1 : Nat) : ℚ) = 2 ^ 53 - 1 := by
    norm_num [binadeSize]
  have htop : (2 : ℚ) ^ 1024 = 2 ^ 54 * 2 ^ 970 := pow_add 2 54 970
  have hbinade' : (2 : ℚ) ^ binade = 2 ^ 970 * 2 ^ 1074 * 2 := by
    rw [hbinade, pow_succ 2 (970 + 1074), pow_add 2 970 1074]
  rw [hindex, middle_binade (.inr (by decide)) (by decide), hplace, htop, hbinade',
    unitsPerOne_eq rfl, Nat.cast_pow, Nat.cast_ofNat]
  generalize (2 : ℚ) ^ 970 = step
  generalize (2 : ℚ) ^ 1074 = one
  ring

/-- The values that are rounded to a finite number. -/
theorem IsNearest.lt_indexLimit_iff (h : IsNearest index (magnitude * unitsPerOne)) :
    index < indexLimit ↔ magnitude < 2 ^ 1024 - 2 ^ 970 := by
  have hodd : (indexLimit - 1) % 2 = 1 := by decide
  have hlast : index < indexLimit ↔ ¬ indexLimit - 1 < index := by
    unfold indexLimit binadeSize
    omega
  rw [hlast, h, GoesPast, middle_last, and_iff_left hodd, ← le_iff_lt_or_eq, not_le,
    mul_lt_mul_iff_left₀ cast_unitsPerOne_pos]

/-- No number reaches the end of the finite range. -/
theorem abs_toRat_lt (x : Binary64) : |x.toRat| < 2 ^ 1024 - 2 ^ 970 := by
  have hlast : (unitsAt x.index : ℚ) < middle (indexLimit - 1) :=
    (cast_unitsAt_le (Nat.le_sub_one_of_lt x.index_lt)).trans_lt (unitsAt_lt_middle _)
  rw [middle_last] at hlast
  rwa [abs_toRat, magnitudeAt, div_lt_iff₀ cast_unitsPerOne_pos]

/-! ### Nearest numbers -/

theorem dist_units (magnitude : ℚ) (index : Nat) :
    |magnitude * unitsPerOne - unitsAt index| = |magnitude - magnitudeAt index| * unitsPerOne := by
  have hunits : (unitsAt index : ℚ) = magnitudeAt index * unitsPerOne :=
    (div_mul_cancel₀ _ cast_unitsPerOne_pos.ne').symm
  rw [hunits, ← sub_mul, abs_mul, abs_of_pos cast_unitsPerOne_pos]

theorem dist_toRat (x : Binary64) (magnitude : ℚ) :
    |withSign x.negative magnitude - x.toRat| = |magnitude - magnitudeAt x.index| := by
  rw [toRat_eq, withSign_sub_withSign]

theorem le_dist_toRat (hmagnitude : 0 ≤ magnitude) (negative : Bool) (y : Binary64) :
    |magnitude - magnitudeAt y.index| ≤ |withSign negative magnitude - y.toRat| := by
  have hle := abs_abs_sub_abs_le (withSign negative magnitude) y.toRat
  rwa [abs_withSign, abs_of_nonneg hmagnitude, abs_toRat] at hle

/-- A number is the nearest one to a value: no other is nearer, and if another one is as near, the
last binary digit of this one is zero. -/
structure IsNearestTo (x : Binary64) (value : ℚ) : Prop where
  nearest (y : Binary64) : |value - x.toRat| ≤ |value - y.toRat|
  even (y : Binary64) : y.toRat ≠ x.toRat → |value - y.toRat| = |value - x.toRat| →
    x.significand % 2 = 0

/-- The nearest number to the value of a number has that value. -/
theorem IsNearestTo.toRat_eq (h : x.IsNearestTo y.toRat) : x.toRat = y.toRat := by
  have hle := h.nearest y
  rw [sub_self, abs_zero, abs_nonpos_iff, sub_eq_zero] at hle
  exact hle.symm

/-- If the opposite of a nearest number is another one and as near, the value is zero. -/
theorem IsNearest.index_eq_zero (h : IsNearest x.index (magnitude * unitsPerOne))
    (hindex : y.index = x.index) (hne : y.toRat ≠ x.toRat)
    (heq : |withSign x.negative magnitude - y.toRat| = |withSign x.negative magnitude - x.toRat|) :
    x.index = 0 := by
  have hopposite : y.toRat = -x.toRat := by
    rw [toRat_eq, toRat_eq, hindex] at hne ⊢
    exact withSign_eq_neg hne
  have hx : x.toRat ≠ 0 := by
    intro hzero
    rw [hopposite, hzero, neg_zero] at hne
    exact hne rfl
  have hvalue : withSign x.negative magnitude = 0 := by
    rw [hopposite, sub_neg_eq_add] at heq
    rcases abs_eq_abs.mp heq with hsame | hsame
    · exact absurd (by linarith) hx
    · linarith
  have hmagnitude : magnitude = 0 := by
    rw [← abs_eq_zero, ← abs_withSign x.negative, hvalue, abs_zero]
  rw [hmagnitude, zero_mul] at h
  exact h.eq_of_eq_unitsAt (by rw [unitsAt_zero, Nat.cast_zero])

theorem IsNearest.isNearestTo (h : IsNearest x.index (magnitude * unitsPerOne))
    (hmagnitude : 0 ≤ magnitude) : x.IsNearestTo (withSign x.negative magnitude) := by
  have hnearest : ∀ other, |magnitude - magnitudeAt x.index| ≤ |magnitude - magnitudeAt other| := by
    intro other
    have hle := h.dist_le other
    rw [dist_units, dist_units] at hle
    exact le_of_mul_le_mul_right hle cast_unitsPerOne_pos
  refine ⟨fun y => ?_, fun y hne heq => ?_⟩
  · rw [dist_toRat]
    exact (hnearest y.index).trans (le_dist_toRat hmagnitude _ y)
  · rw [significand_mod_two]
    by_cases hindex : y.index = x.index
    · rw [h.index_eq_zero hindex hne heq]
    · -- a number of any sign is at least as far as the one of its magnitude with the sign of `x`
      rw [dist_toRat] at heq
      have hle := (le_dist_toRat hmagnitude x.negative y).trans heq.le
      refine h.even_of_dist_eq hindex ?_
      rw [dist_units, dist_units, hle.antisymm (hnearest y.index)]

theorem IsNearestTo.isNearest (h : x.IsNearestTo (withSign x.negative magnitude))
    (hlimit : magnitude < 2 ^ 1024 - 2 ^ 970) : IsNearest x.index (magnitude * unitsPerOne) := by
  refine isNearest_of_dist_le x.index_lt ?_ (fun other hother => ?_) fun other hother hne heq => ?_
  · rw [middle_last]
    exact mul_lt_mul_of_pos_right hlimit cast_unitsPerOne_pos
  · have hle := h.nearest ⟨x.negative, other, hother⟩
    rw [dist_toRat, dist_toRat ⟨x.negative, other, hother⟩] at hle
    rw [dist_units, dist_units]
    exact mul_le_mul_of_nonneg_right hle cast_unitsPerOne_pos.le
  · rw [dist_units, dist_units] at heq
    rw [← significand_mod_two]
    refine h.even ⟨x.negative, other, hother⟩ (fun hsame => hne ?_) ?_
    · refine magnitudeAt_strictMono.injective ?_
      rw [← abs_toRat x, ← hsame, abs_toRat]
    · rw [dist_toRat, dist_toRat ⟨x.negative, other, hother⟩]
      exact mul_right_cancel₀ cast_unitsPerOne_pos.ne' heq

/-- In the finite range, the nearest number is the one that rounding finds. -/
theorem isNearestTo_iff (hmagnitude : 0 ≤ magnitude) (hlimit : magnitude < 2 ^ 1024 - 2 ^ 970) :
    x.IsNearestTo (withSign x.negative magnitude) ↔
      IsNearest x.index (magnitude * unitsPerOne) :=
  ⟨fun h => h.isNearest hlimit, fun h => h.isNearestTo hmagnitude⟩

end rounding

end Binary64
end TableExport
