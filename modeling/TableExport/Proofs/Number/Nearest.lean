import Mathlib.Algebra.Order.Field.Rat
import Mathlib.Algebra.Order.Ring.Rat
import Mathlib.Order.Monotone.Basic
import Mathlib.Tactic.FieldSimp
import Mathlib.Tactic.Linarith
import Mathlib.Tactic.NormNum
import Mathlib.Tactic.Positivity
import Mathlib.Tactic.Qify
import Mathlib.Tactic.Ring
import TableExport.Number.Binary64

/-! # The nearest binary64 number

Half way between two neighbouring magnitudes lies their `middle`.  A value goes past a magnitude
when it is rounded if it lies beyond the middle to the next one, or on it and the next index is even
(`GoesPast`).  The magnitude it is rounded to is the first one that it does not go past
(`IsNearest`), and this is what `nearestIndex` finds (`isNearest_nearestIndex`).

Everything else about rounding follows: it respects order (`IsNearest.mono`), it stays on the same
side of every magnitude (`IsNearest.le_of_le_unitsAt`, `IsNearest.le_of_unitsAt_le`), and it leaves
magnitudes as they are (`IsNearest.eq_of_eq_unitsAt`).  Fractions whose numerator has up to 53
binary digits and whose denominator is a power of two are magnitudes, so that rounding stays on the
same side of them (`IsNearest.magnitudeAt_le`, `IsNearest.le_magnitudeAt`). -/

namespace TableExport

/-! ### Rounding to whole numbers -/

/-- The rounded quotient is at most half a unit off, and at half a unit it is even. -/
theorem roundHalfEven_spec (n : Nat) {d : Nat} (hd : 0 < d) :
    (2 * (roundHalfEven n d * d) < 2 * n + d ∨
        2 * (roundHalfEven n d * d) = 2 * n + d ∧ roundHalfEven n d % 2 = 0) ∧
      (2 * n < 2 * (roundHalfEven n d * d) + d ∨
        2 * n = 2 * (roundHalfEven n d * d) + d ∧ roundHalfEven n d % 2 = 0) := by
  have hn : n / d * d + n % d = n := by rw [Nat.mul_comm]; exact Nat.div_add_mod n d
  have hrem : n % d < d := Nat.mod_lt n hd
  have hnext : (n / d + 1) * d = n / d * d + d := Nat.succ_mul _ _
  unfold roundHalfEven
  dsimp only
  split
  · omega
  · split
    · omega
    · have hhalf : 2 * (n % d) = d := by omega
      rcases Nat.mod_two_eq_zero_or_one (n / d) with heven | hodd
      · rw [heven, Nat.add_zero]
        omega
      · rw [hodd]
        omega

/-- The same for the quotient as a fraction. -/
theorem roundHalfEven_near (n : Nat) {d : Nat} (hd : 0 < d) :
    ((roundHalfEven n d : ℚ) - 1 / 2 < n / d ∨
        (roundHalfEven n d : ℚ) - 1 / 2 = n / d ∧ roundHalfEven n d % 2 = 0) ∧
      ((n : ℚ) / d < roundHalfEven n d + 1 / 2 ∨
        (n : ℚ) / d = roundHalfEven n d + 1 / 2 ∧ roundHalfEven n d % 2 = 0) := by
  have hpos : (0 : ℚ) < d := Nat.cast_pos.mpr hd
  obtain ⟨habove, hbelow⟩ := roundHalfEven_spec n hd
  rw [lt_div_iff₀ hpos, eq_div_iff hpos.ne', div_lt_iff₀ hpos, div_eq_iff hpos.ne']
  refine ⟨habove.imp (fun h => ?_) (And.imp_left fun h => ?_),
    hbelow.imp (fun h => ?_) (And.imp_left fun h => ?_)⟩ <;>
    · qify at h
      linarith

theorem roundHalfEven_mono {n n' d : Nat} (hd : 0 < d) (h : n ≤ n') :
    roundHalfEven n d ≤ roundHalfEven n' d := by
  obtain ⟨hlow, -⟩ := roundHalfEven_spec n hd
  obtain ⟨-, hhigh⟩ := roundHalfEven_spec n' hd
  by_contra hlt
  have hstep : (roundHalfEven n' d + 1) * d ≤ roundHalfEven n d * d :=
    Nat.mul_le_mul_right d (by omega)
  rw [Nat.succ_mul] at hstep
  -- only a tie on both sides is left, and neighbours are not both even
  have heq : roundHalfEven n d * d = (roundHalfEven n' d + 1) * d := by
    rw [Nat.succ_mul]
    omega
  have := Nat.eq_of_mul_eq_mul_right hd heq
  omega

namespace Binary64

/-! ### Magnitudes -/

theorem unitsPerOne_pos : 0 < unitsPerOne := by
  decide +kernel

/-- The magnitudes of a binade are its multiples of one power of two. -/
theorem unitsAt_binade {binade place : Nat} (hlow : binade = 0 ∨ binadeSize ≤ place)
    (hhigh : place ≤ 2 * binadeSize) :
    unitsAt (binade * binadeSize + place) = place * 2 ^ binade := by
  unfold unitsAt binadeSize at *
  split
  · next hsmall =>
      obtain rfl : binade = 0 := by omega
      omega
  · by_cases htop : place = 2 * 4503599627370496
    · have hdiv : (binade * 4503599627370496 + place) / 4503599627370496 - 1 = binade + 1 := by
        omega
      have hmod : (binade * 4503599627370496 + place) % 4503599627370496 = 0 := by omega
      rw [hdiv, hmod, Nat.pow_eq, Nat.pow_succ, htop]
      omega
    · have hdiv : (binade * 4503599627370496 + place) / 4503599627370496 - 1 = binade := by omega
      have hmod : 4503599627370496 + (binade * 4503599627370496 + place) % 4503599627370496
          = place := by omega
      rw [hdiv, hmod, Nat.pow_eq]

@[simp]
theorem unitsAt_zero : unitsAt 0 = 0 := unitsAt_of_lt (by decide)

theorem exists_binade (index : Nat) :
    ∃ binade place, (binade = 0 ∨ binadeSize ≤ place) ∧ place < 2 * binadeSize ∧
      index = binade * binadeSize + place := by
  have hsize : binadeSize = 4503599627370496 := rfl
  rw [hsize]
  by_cases hsmall : index < 2 * 4503599627370496
  · exact ⟨0, index, .inl rfl, hsmall, by omega⟩
  · exact ⟨index / 4503599627370496 - 1, 4503599627370496 + index % 4503599627370496,
      .inr (by omega), by omega, by omega⟩

theorem unitsAt_strictMono : StrictMono unitsAt := by
  refine strictMono_nat_of_lt_succ fun index => ?_
  obtain ⟨binade, place, hlow, hhigh, rfl⟩ := exists_binade index
  rw [Nat.add_assoc, unitsAt_binade hlow hhigh.le, unitsAt_binade (by omega) hhigh]
  exact Nat.mul_lt_mul_of_pos_right (Nat.lt_succ_self place) (by positivity)

theorem cast_unitsAt_lt {index other : Nat} (h : index < other) :
    (unitsAt index : ℚ) < unitsAt other :=
  Nat.cast_lt.mpr (unitsAt_strictMono h)

theorem cast_unitsAt_le {index other : Nat} (h : index ≤ other) :
    (unitsAt index : ℚ) ≤ unitsAt other :=
  Nat.cast_le.mpr (unitsAt_strictMono.monotone h)

theorem parity_binade (binade place : Nat) :
    (binade * binadeSize + place) % 2 = place % 2 := by
  unfold binadeSize
  omega

/-- Every number of up to 53 binary digits is a magnitude, and so are its products with powers of
two. -/
theorem exists_unitsAt_eq {m : Nat} (hm : m ≤ 2 * binadeSize) (binade : Nat) :
    ∃ index, unitsAt index = m * 2 ^ binade := by
  induction binade generalizing m with
  | zero => exact ⟨0 * binadeSize + m, unitsAt_binade (.inl rfl) hm⟩
  | succ binade ih =>
      by_cases hlow : binadeSize ≤ m
      · exact ⟨_, unitsAt_binade (.inr hlow) hm⟩
      · obtain ⟨index, hindex⟩ := ih (m := 2 * m) (by omega)
        exact ⟨index, by rw [hindex, Nat.pow_succ]; ring⟩

/-! ### Rounding to magnitudes -/

/-- The middle between a magnitude and the next one. -/
def middle (index : Nat) : ℚ :=
  (unitsAt index + unitsAt (index + 1)) / 2

theorem middle_strictMono : StrictMono middle := by
  intro first second h
  have hfirst := cast_unitsAt_lt h
  have hsecond := cast_unitsAt_lt (Nat.succ_lt_succ h)
  unfold middle
  linarith

theorem unitsAt_lt_middle (index : Nat) : (unitsAt index : ℚ) < middle index := by
  have h : (unitsAt index : ℚ) < unitsAt (index + 1) := cast_unitsAt_lt index.lt_succ_self
  unfold middle
  linarith

theorem middle_lt_unitsAt (index : Nat) : middle index < unitsAt (index + 1) := by
  have h : (unitsAt index : ℚ) < unitsAt (index + 1) := cast_unitsAt_lt index.lt_succ_self
  unfold middle
  linarith

theorem middle_binade {binade place : Nat} (hlow : binade = 0 ∨ binadeSize ≤ place)
    (hhigh : place < 2 * binadeSize) :
    middle (binade * binadeSize + place) = ((place : ℚ) + 1 / 2) * 2 ^ binade := by
  unfold middle
  rw [Nat.add_assoc, unitsAt_binade hlow hhigh.le, unitsAt_binade (by omega) hhigh]
  push_cast
  ring

/-- A value goes past a magnitude when it is rounded: it is beyond the middle to the next one, or on
it and the next index is even. -/
def GoesPast (index : Nat) (value : ℚ) : Prop :=
  middle index < value ∨ middle index = value ∧ index % 2 = 1

theorem GoesPast.of_le {index other : Nat} {value : ℚ} (h : GoesPast index value)
    (hle : other ≤ index) : GoesPast other value := by
  rcases hle.eq_or_lt with rfl | hlt
  · exact h
  · have hmiddle := middle_strictMono hlt
    rcases h with hbeyond | ⟨hon, -⟩
    · exact .inl (hmiddle.trans hbeyond)
    · exact .inl (hon ▸ hmiddle)

theorem GoesPast.mono {index : Nat} {value value' : ℚ} (h : GoesPast index value)
    (hle : value ≤ value') : GoesPast index value' := by
  rcases hle.eq_or_lt with rfl | hlt
  · exact h
  · rcases h with hbeyond | ⟨hon, -⟩
    · exact .inl (hbeyond.trans hlt)
    · exact .inl (hon ▸ hlt)

/-- A value lies in a binade, and in units of that binade it is rounded to a place. -/
structure RoundsTo (value : ℚ) (binade place : Nat) : Prop where
  lower : binade = 0 ∨ (binadeSize : ℚ) * 2 ^ binade ≤ value
  upper : value < 2 * binadeSize * 2 ^ binade
  above : ((place : ℚ) - 1 / 2) * 2 ^ binade < value ∨
    ((place : ℚ) - 1 / 2) * 2 ^ binade = value ∧ place % 2 = 0
  below : value < ((place : ℚ) + 1 / 2) * 2 ^ binade ∨
    value = ((place : ℚ) + 1 / 2) * 2 ^ binade ∧ place % 2 = 0

theorem log2_bounds (n : Nat) :
    (n.log2 - 52 = 0 ∨ binadeSize * 2 ^ (n.log2 - 52) ≤ n) ∧
      n + 1 ≤ 2 * binadeSize * 2 ^ (n.log2 - 52) := by
  have hupper : n < 2 ^ (n.log2 + 1) := Nat.lt_log2_self
  by_cases hsmall : n.log2 ≤ 52
  · have hzero : n.log2 - 52 = 0 := by omega
    have hle : 2 ^ (n.log2 + 1) ≤ 2 ^ 53 := Nat.pow_le_pow_right (by decide) (by omega)
    rw [hzero]
    exact ⟨.inl rfl, hupper.trans_le hle⟩
  · have hne : n ≠ 0 := by
      rintro rfl
      exact hsmall (by decide)
    have hlower : 2 ^ n.log2 ≤ n := Nat.log2_self_le hne
    have hsplit : 2 ^ n.log2 = binadeSize * 2 ^ (n.log2 - 52) := by
      have hsum : n.log2 = 52 + (n.log2 - 52) := by omega
      conv_lhs => rw [hsum, Nat.pow_add]
      rfl
    refine ⟨.inr (hsplit ▸ hlower), ?_⟩
    rw [Nat.pow_succ, hsplit] at hupper
    rw [Nat.mul_assoc, Nat.mul_comm 2]
    exact hupper

theorem nearestIndex_eq_add (n : Nat) {d : Nat} (hd : 0 < d) :
    ∃ binade place, nearestIndex n d = binade * binadeSize + place ∧
      RoundsTo (n / d * unitsPerOne) binade place := by
  let scaled := n * unitsPerOne
  let binade := (scaled / d).log2 - 52
  refine ⟨binade, roundHalfEven scaled (d * 2 ^ binade), rfl, ?_⟩
  obtain ⟨hlower, hupper⟩ := log2_bounds (scaled / d)
  have hpos : (0 : ℚ) < d := Nat.cast_pos.mpr hd
  have hvalue : (n / d * unitsPerOne : ℚ) = (scaled : ℚ) / d := by
    simp only [scaled]
    push_cast
    ring
  have hplace : ((scaled : ℚ) / d) / 2 ^ binade = scaled / (d * 2 ^ binade : Nat) := by
    push_cast
    rw [div_div]
  obtain ⟨habove, hbelow⟩ := roundHalfEven_near scaled (d := d * 2 ^ binade) (by positivity)
  have hspacing : (0 : ℚ) < 2 ^ binade := by positivity
  rw [← hplace, lt_div_iff₀ hspacing, eq_div_iff hspacing.ne'] at habove
  rw [← hplace, div_lt_iff₀ hspacing, div_eq_iff hspacing.ne'] at hbelow
  rw [hvalue]
  refine ⟨hlower.imp_right fun h => ?_, ?_, habove, hbelow⟩
  · rw [le_div_iff₀ hpos]
    exact_mod_cast (Nat.mul_le_mul_right d h).trans (Nat.div_mul_le_self scaled d)
  · rw [div_lt_iff₀ hpos]
    have hfloor : scaled < (scaled / d + 1) * d := by
      rw [Nat.mul_comm]
      exact Nat.lt_mul_div_succ scaled hd
    exact_mod_cast hfloor.trans_le (Nat.mul_le_mul_right d hupper)

namespace RoundsTo

variable {value : ℚ} {binade place : Nat}

theorem le_place (h : RoundsTo value binade place) : binade = 0 ∨ binadeSize ≤ place := by
  refine h.lower.imp_right fun hlower => ?_
  have hspacing : (0 : ℚ) < 2 ^ binade := by positivity
  have hle : (binadeSize : ℚ) * 2 ^ binade ≤ ((place : ℚ) + 1 / 2) * 2 ^ binade :=
    hlower.trans (h.below.elim le_of_lt fun hon => hon.1.le)
  have hplace : (binadeSize : ℚ) < place + 1 := by
    linarith [le_of_mul_le_mul_right hle hspacing]
  exact Nat.lt_succ_iff.mp (by exact_mod_cast hplace)

theorem place_le (h : RoundsTo value binade place) : place ≤ 2 * binadeSize := by
  have hspacing : (0 : ℚ) < 2 ^ binade := by positivity
  have hlt : ((place : ℚ) - 1 / 2) * 2 ^ binade < 2 * binadeSize * 2 ^ binade :=
    (h.above.elim le_of_lt fun hon => hon.1.le).trans_lt h.upper
  have hplace : (place : ℚ) < 2 * binadeSize + 1 := by
    linarith [lt_of_mul_lt_mul_right hlt hspacing.le]
  exact Nat.lt_succ_iff.mp (by exact_mod_cast hplace)

/-- The value does not go past the magnitude that it is rounded to. -/
theorem not_goesPast (h : RoundsTo value binade place) :
    ¬ GoesPast (binade * binadeSize + place) value := by
  rcases h.place_le.lt_or_eq with hlt | htop
  · rw [GoesPast, middle_binade h.le_place hlt]
    rintro (hbeyond | ⟨hon, hodd⟩)
    · rcases h.below with hbelow | ⟨hbelow, -⟩
      · exact absurd hbelow hbeyond.not_gt
      · exact hbeyond.ne' hbelow
    · rcases h.below with hbelow | ⟨-, heven⟩
      · exact hbelow.ne hon.symm
      · rw [parity_binade, heven] at hodd
        cases hodd
  · -- the last place is the first one of the next binade, which the value does not reach
    have hunits : (unitsAt (binade * binadeSize + place) : ℚ) = 2 * binadeSize * 2 ^ binade := by
      rw [unitsAt_binade h.le_place h.place_le, htop]
      push_cast
      ring
    have hlt : value < middle (binade * binadeSize + place) :=
      h.upper.trans (hunits ▸ unitsAt_lt_middle _)
    rintro (hbeyond | ⟨hon, -⟩)
    · exact absurd hlt hbeyond.not_gt
    · exact hlt.ne hon.symm

/-- The value goes past the magnitude before the one that it is rounded to. -/
theorem goesPast (h : RoundsTo value binade place) {index : Nat}
    (hindex : index + 1 = binade * binadeSize + place) : GoesPast index value := by
  have hle := h.le_place
  by_cases hfirst : binade ≠ 0 ∧ place = binadeSize
  · -- the first place of a binade follows the last one of the binade before
    have hunits : (unitsAt (index + 1) : ℚ) = binadeSize * 2 ^ binade := by
      rw [hindex, unitsAt_binade hle h.place_le, hfirst.2]
      push_cast
      rfl
    have hlower := h.lower.resolve_left hfirst.1
    exact .inl ((middle_lt_unitsAt index).trans_le (hunits ▸ hlower))
  · obtain ⟨before, rfl⟩ : ∃ before, place = before + 1 := by
      refine Nat.exists_eq_succ_of_ne_zero ?_
      rintro rfl
      obtain rfl : binade = 0 := hle.resolve_right (by decide)
      omega
    have hplace := h.place_le
    obtain rfl : index = binade * binadeSize + before := by omega
    rw [GoesPast, middle_binade (by omega) hplace]
    have habove := h.above
    push_cast at habove
    rcases habove with hbeyond | ⟨hon, heven⟩
    · left
      linarith
    · right
      exact ⟨by linarith, by rw [parity_binade]; omega⟩

end RoundsTo

theorem middle_zero : middle 0 = 1 / 2 := by
  norm_num [middle, unitsAt, binadeSize]

/-! ### The nearest magnitude -/

/-- The index of the magnitude nearest to a value, a tie going to the even index: it lies behind
exactly those indices that the value goes past. -/
def IsNearest (index : Nat) (value : ℚ) : Prop :=
  ∀ other, other < index ↔ GoesPast other value

/-- The neighbours decide. -/
theorem isNearest_of_goesPast {index : Nat} {value : ℚ}
    (hpast : ∀ {before}, before + 1 = index → GoesPast before value)
    (hstay : ¬ GoesPast index value) : IsNearest index value := by
  intro other
  constructor
  · intro hlt
    have hlast : GoesPast (index - 1) value := hpast (by omega)
    exact hlast.of_le (by omega)
  · intro hgoes
    by_contra hle
    exact hstay (hgoes.of_le (Nat.not_lt.mp hle))

theorem isNearest_nearestIndex (n : Nat) {d : Nat} (hd : 0 < d) :
    IsNearest (nearestIndex n d) (n / d * unitsPerOne) := by
  obtain ⟨binade, place, heq, hrounds⟩ := nearestIndex_eq_add n hd
  rw [heq]
  exact isNearest_of_goesPast hrounds.goesPast hrounds.not_goesPast

namespace IsNearest

variable {index other : Nat} {value value' : ℚ}

/-- Rounding respects order. -/
theorem mono (h : IsNearest index value) (h' : IsNearest other value') (hle : value ≤ value') :
    index ≤ other :=
  le_of_forall_lt fun passed hlt => (h' passed).mpr (((h passed).mp hlt).mono hle)

/-- Rounding stays below every magnitude that the value does not exceed. -/
theorem le_of_le_unitsAt (h : IsNearest index value) (hle : value ≤ unitsAt other) :
    index ≤ other := by
  by_contra hlt
  have hmiddle := unitsAt_lt_middle other
  rcases (h other).mp (Nat.not_le.mp hlt) with hbeyond | ⟨hon, -⟩ <;> linarith

/-- Rounding stays above every magnitude that the value reaches. -/
theorem le_of_unitsAt_le (h : IsNearest index value) (hle : unitsAt other ≤ value) :
    other ≤ index := by
  cases other with
  | zero => exact Nat.zero_le _
  | succ passed => exact (h passed).mpr (.inl ((middle_lt_unitsAt passed).trans_le hle))

theorem unique (h : IsNearest index value) (h' : IsNearest other value) : index = other :=
  le_antisymm (h.mono h' le_rfl) (h'.mono h le_rfl)

/-- A magnitude is rounded to itself. -/
theorem eq_of_eq_unitsAt (h : IsNearest index value) (heq : value = unitsAt other) :
    index = other :=
  le_antisymm (h.le_of_le_unitsAt heq.le) (h.le_of_unitsAt_le heq.ge)

end IsNearest

/-! ### Dyadic fractions -/

theorem unitsPerOne_eq {k : Nat} (h : k = 1074) : unitsPerOne = 2 ^ k := by
  subst h
  decide +kernel

theorem cast_unitsPerOne {j k : Nat} (h : j + k = 1074) : (unitsPerOne : ℚ) = 2 ^ j * 2 ^ k := by
  rw [unitsPerOne_eq h, pow_add, Nat.cast_mul, Nat.cast_pow, Nat.cast_pow, Nat.cast_ofNat]

/-- Fractions with a power of two below and up to 53 binary digits above are magnitudes. -/
theorem exists_unitsAt_eq_div {m k : Nat} (hm : m ≤ 2 * binadeSize) (hk : k ≤ 1074) :
    ∃ index, (unitsAt index : ℚ) = m / 2 ^ k * unitsPerOne := by
  obtain ⟨index, hindex⟩ := exists_unitsAt_eq hm (1074 - k)
  refine ⟨index, ?_⟩
  rw [hindex, cast_unitsPerOne (Nat.sub_add_cancel hk)]
  push_cast
  field_simp

/-- The magnitude after a fraction whose numerator has 53 binary digits. -/
theorem exists_middle_eq_div {m k : Nat} (hlow : binadeSize ≤ m) (hhigh : m < 2 * binadeSize)
    (hk : k ≤ 1074) :
    ∃ index, (unitsAt (index + 1) : ℚ) = (m + 1) / 2 ^ k * unitsPerOne ∧
      middle index = (m + 1 / 2) / 2 ^ k * unitsPerOne ∧ index % 2 = m % 2 := by
  refine ⟨(1074 - k) * binadeSize + m, ?_, ?_, parity_binade _ _⟩
  · rw [Nat.add_assoc, unitsAt_binade (by omega) hhigh, cast_unitsPerOne (Nat.sub_add_cancel hk)]
    push_cast
    field_simp
  · rw [middle_binade (.inr hlow) hhigh, cast_unitsPerOne (Nat.sub_add_cancel hk)]
    field_simp

/-- The magnitude with an index. -/
def magnitudeAt (index : Nat) : ℚ :=
  unitsAt index / unitsPerOne

theorem cast_unitsPerOne_pos : (0 : ℚ) < unitsPerOne :=
  Nat.cast_pos.mpr unitsPerOne_pos

namespace IsNearest

variable {index m k : Nat} {value : ℚ}

/-- Rounding stays below every dyadic fraction that the value does not exceed. -/
theorem magnitudeAt_le (h : IsNearest index (value * unitsPerOne)) (hm : m ≤ 2 * binadeSize)
    (hk : k ≤ 1074) (hle : value ≤ m / 2 ^ k) : magnitudeAt index ≤ m / 2 ^ k := by
  obtain ⟨other, hother⟩ := exists_unitsAt_eq_div hm hk
  have hindex : index ≤ other := by
    refine h.le_of_le_unitsAt ?_
    rw [hother]
    exact mul_le_mul_of_nonneg_right hle cast_unitsPerOne_pos.le
  rw [magnitudeAt, div_le_iff₀ cast_unitsPerOne_pos, ← hother]
  exact cast_unitsAt_le hindex

/-- Rounding stays above every dyadic fraction that the value reaches. -/
theorem le_magnitudeAt (h : IsNearest index (value * unitsPerOne)) (hm : m ≤ 2 * binadeSize)
    (hk : k ≤ 1074) (hle : m / 2 ^ k ≤ value) : m / 2 ^ k ≤ magnitudeAt index := by
  obtain ⟨other, hother⟩ := exists_unitsAt_eq_div hm hk
  have hindex : other ≤ index := by
    refine h.le_of_unitsAt_le ?_
    rw [hother]
    exact mul_le_mul_of_nonneg_right hle cast_unitsPerOne_pos.le
  rw [magnitudeAt, le_div_iff₀ cast_unitsPerOne_pos, ← hother]
  exact cast_unitsAt_le hindex

/-- Values of up to `2 ^ 53` are in the finite range. -/
theorem lt_indexLimit (h : IsNearest index (value * unitsPerOne))
    (hle : value ≤ (2 * binadeSize : Nat)) : index < indexLimit := by
  obtain ⟨other, hother⟩ := exists_unitsAt_eq_div (m := 2 * binadeSize) (k := 0) le_rfl (by decide)
  have hindex : index ≤ other := by
    refine h.le_of_le_unitsAt ?_
    rw [hother, pow_zero, div_one]
    exact mul_le_mul_of_nonneg_right hle cast_unitsPerOne_pos.le
  have hunits : unitsAt other = 2 * binadeSize * unitsPerOne := by
    rw [pow_zero, div_one] at hother
    exact_mod_cast hother
  refine hindex.trans_lt (unitsAt_strictMono.lt_iff_lt.mp ?_)
  rw [hunits]
  decide +kernel

/-- Below the middle after a fraction of 53 binary digits, rounding does not go past it. -/
theorem magnitudeAt_lt_of_lt_middle (h : IsNearest index (value * unitsPerOne))
    (hlow : binadeSize ≤ m) (hhigh : m < 2 * binadeSize) (hk : k ≤ 1074)
    (hlt : value < (m + 1 / 2) / 2 ^ k) : magnitudeAt index < (m + 1 / 2) / 2 ^ k := by
  obtain ⟨before, -, hmiddle, -⟩ := exists_middle_eq_div hlow hhigh hk
  have hindex : index ≤ before := by
    by_contra hpast
    have hreach := (h before).mp (Nat.not_le.mp hpast)
    rw [GoesPast, hmiddle, mul_lt_mul_iff_left₀ cast_unitsPerOne_pos] at hreach
    rcases hreach with hbeyond | ⟨hon, -⟩
    · exact hlt.not_gt hbeyond
    · exact hlt.ne' (mul_right_cancel₀ cast_unitsPerOne_pos.ne' hon)
  have hunits : (unitsAt index : ℚ) ≤ unitsAt before := by
    exact cast_unitsAt_le hindex
  rw [magnitudeAt, div_lt_iff₀ cast_unitsPerOne_pos, ← hmiddle]
  exact hunits.trans_lt (unitsAt_lt_middle before)

/-- From the middle after a fraction of 53 binary digits on, rounding goes past it if the fraction
is odd. -/
theorem le_magnitudeAt_of_middle_le (h : IsNearest index (value * unitsPerOne))
    (hlow : binadeSize ≤ m) (hhigh : m < 2 * binadeSize) (hk : k ≤ 1074) (hodd : m % 2 = 1)
    (hle : (m + 1 / 2) / 2 ^ k ≤ value) : (m + 1) / 2 ^ k ≤ magnitudeAt index := by
  obtain ⟨before, hnext, hmiddle, hparity⟩ := exists_middle_eq_div hlow hhigh hk
  have hindex : before < index := by
    refine (h before).mpr ?_
    rw [GoesPast, hmiddle, mul_lt_mul_iff_left₀ cast_unitsPerOne_pos]
    exact hle.lt_or_eq.imp_right fun hon => ⟨by rw [hon], hparity.trans hodd⟩
  rw [magnitudeAt, le_div_iff₀ cast_unitsPerOne_pos, ← hnext]
  exact cast_unitsAt_le hindex

end IsNearest

end Binary64
end TableExport
