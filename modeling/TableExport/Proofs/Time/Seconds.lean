import TableExport.Proofs.Number.Nearest
import TableExport.Time.UnixTime

/-! # Whole seconds of a number

A number of seconds is rounded twice on its way to whole seconds, first the product of its fraction
with a million and then that product to whole microseconds.  Both roundings respect order, so the
whole seconds do too, across zero and across every carry (`UnixTime.wholeSeconds_mono`).

A value between two whole numbers stays between them (`UnixTime.wholeSeconds_between`).  The carry
to the second one starts at half a microsecond below it, or already earlier where the spacing of the
numbers is larger than that (`UnixTime.wholeSeconds_eq_of_lt`, `UnixTime.wholeSeconds_eq_of_le`). -/

namespace TableExport

namespace Binary64

variable {x y : Binary64}

/-! ### Whole part and fraction -/

/-- The fraction of the magnitude. -/
def fraction (x : Binary64) : ℚ :=
  x.fractionUnits / unitsPerOne

theorem magnitudeAt_index (x : Binary64) : magnitudeAt x.index = x.wholePart + x.fraction := by
  have hunits : unitsAt x.index = x.wholePart * unitsPerOne + x.fractionUnits := x.units_eq
  rw [magnitudeAt, fraction, hunits, Nat.cast_add, Nat.cast_mul, add_div,
    mul_div_cancel_right₀ _ cast_unitsPerOne_pos.ne']

theorem fraction_nonneg (x : Binary64) : 0 ≤ x.fraction :=
  div_nonneg (Nat.cast_nonneg _) (Nat.cast_nonneg _)

theorem fraction_lt_one (x : Binary64) : x.fraction < 1 := by
  rw [fraction, div_lt_one cast_unitsPerOne_pos]
  exact_mod_cast Nat.mod_lt _ unitsPerOne_pos

theorem le_wholePart {n : Nat} (h : (n : ℚ) ≤ magnitudeAt x.index) : n ≤ x.wholePart := by
  rw [magnitudeAt_index] at h
  have hlt : (n : ℚ) < x.wholePart + 1 := by linarith [x.fraction_lt_one]
  exact Nat.lt_succ_iff.mp (by exact_mod_cast hlt)

/-- A number between two whole numbers begins with the first one. -/
theorem wholePart_eq {n : Nat} (h : (n : ℚ) ≤ magnitudeAt x.index)
    (h' : magnitudeAt x.index < n + 1) : x.wholePart = n := by
  have hlt : (x.wholePart : ℚ) < n + 1 := by
    rw [magnitudeAt_index] at h'
    linarith [x.fraction_nonneg]
  exact le_antisymm (Nat.lt_succ_iff.mp (by exact_mod_cast hlt)) (le_wholePart h)

/-- A larger number has a larger whole part, or the same and a fraction that is not smaller. -/
theorem parts_le (h : x.units ≤ y.units) :
    x.wholePart < y.wholePart ∨
      x.wholePart = y.wholePart ∧ x.fractionUnits ≤ y.fractionUnits := by
  have hwhole : x.wholePart ≤ y.wholePart := Nat.div_le_div_right h
  refine hwhole.lt_or_eq.imp_right fun heq => ⟨heq, ?_⟩
  rw [x.units_eq, y.units_eq, heq] at h
  exact Nat.le_of_add_le_add_left h

theorem parts_of_eq {n : Nat} (h : magnitudeAt x.index = n) :
    x.wholePart = n ∧ x.fractionUnits = 0 := by
  have hwhole : x.wholePart = n := wholePart_eq h.ge (h.trans_lt (lt_add_one _))
  refine ⟨hwhole, ?_⟩
  have hfraction : x.fraction = 0 := by
    rw [magnitudeAt_index, hwhole] at h
    linarith
  have hunits := (div_eq_zero_iff.mp hfraction).resolve_right cast_unitsPerOne_pos.ne'
  exact_mod_cast hunits

theorem parts_of_units_zero (h : x.units = 0) : x.wholePart = 0 ∧ x.fractionUnits = 0 := by
  rw [wholePart, fractionUnits, h]
  exact ⟨Nat.zero_div _, Nat.zero_mod _⟩

/-! ### Rounded values -/

/-- The number in units of the least positive number, with its sign. -/
def signedUnits (x : Binary64) : Int :=
  Numeral.signed x.negative x.units

/-- The number that a value is rounded to, with the sign of the value. -/
structure IsRounded (x : Binary64) (value : ℚ) : Prop where
  nearest : IsNearest x.index (|value| * unitsPerOne)
  nonpos : x.negative = true → value ≤ 0
  nonneg : x.negative = false → 0 ≤ value

namespace IsRounded

variable {value value' : ℚ}

theorem units_le (h : x.IsRounded value) (h' : y.IsRounded value') (hle : |value| ≤ |value'|) :
    x.units ≤ y.units :=
  unitsAt_strictMono.monotone (h.nearest.mono h'.nearest
    (mul_le_mul_of_nonneg_right hle (Nat.cast_nonneg _)))

theorem nearest_of_nonneg (h : x.IsRounded value) (hvalue : 0 ≤ value) :
    IsNearest x.index (value * unitsPerOne) := by
  have hnearest := h.nearest
  rwa [abs_of_nonneg hvalue] at hnearest

theorem units_eq_zero (h : x.IsRounded 0) : x.units = 0 := by
  have hindex : x.index = 0 := h.nearest.eq_of_eq_unitsAt
    (by rw [abs_zero, zero_mul, unitsAt_zero, Nat.cast_zero])
  rw [units, hindex, unitsAt_zero]

/-- Rounding values of both signs respects order. -/
theorem mono (h : x.IsRounded value) (h' : y.IsRounded value') (hle : value ≤ value') :
    x.signedUnits ≤ y.signedUnits := by
  unfold signedUnits Numeral.signed
  cases hx : x.negative <;> cases hy : y.negative
  case false.false =>
    have hnonneg := h.nonneg hx
    have hunits := h.units_le h' (by rwa [abs_of_nonneg hnonneg, abs_of_nonneg (hnonneg.trans hle)])
    simpa using hunits
  case true.true =>
    have hnonpos := h'.nonpos hy
    have hunits := h'.units_le h
      (by rwa [abs_of_nonpos hnonpos, abs_of_nonpos (hle.trans hnonpos), neg_le_neg_iff])
    simpa using hunits
  case true.false =>
    simp only [if_true, Bool.false_eq_true, if_false]
    omega
  case false.true =>
    have hvalue : value = 0 := le_antisymm (hle.trans (h'.nonpos hy)) (h.nonneg hx)
    have hvalue' : value' = 0 := le_antisymm (h'.nonpos hy) (hvalue ▸ hle)
    subst hvalue hvalue'
    simp [h.units_eq_zero, h'.units_eq_zero]

end IsRounded

end Binary64

namespace UnixTime

variable {x y : Binary64}

/-! ### Microseconds -/

/-- The index of the product of the fraction with a million, rounded to binary64. -/
def productIndex (x : Binary64) : Nat :=
  Binary64.nearestIndex (x.fractionUnits * 1000000) Binary64.unitsPerOne

theorem microseconds_eq (x : Binary64) :
    microseconds x = roundHalfEven (Binary64.unitsAt (productIndex x)) Binary64.unitsPerOne :=
  rfl

theorem isNearest_productIndex (x : Binary64) :
    Binary64.IsNearest (productIndex x) (x.fraction * 1000000 * Binary64.unitsPerOne) := by
  have h := Binary64.isNearest_nearestIndex (x.fractionUnits * 1000000) Binary64.unitsPerOne_pos
  rwa [Nat.cast_mul, mul_div_right_comm] at h

theorem microseconds_mono (h : x.fractionUnits ≤ y.fractionUnits) :
    microseconds x ≤ microseconds y := by
  have hfraction : x.fraction ≤ y.fraction :=
    div_le_div_of_nonneg_right (Nat.cast_le.mpr h) (Nat.cast_nonneg _)
  have hproduct : productIndex x ≤ productIndex y :=
    (isNearest_productIndex x).mono (isNearest_productIndex y)
      (mul_le_mul_of_nonneg_right (mul_le_mul_of_nonneg_right hfraction (by norm_num))
        (Nat.cast_nonneg _))
  rw [microseconds_eq, microseconds_eq]
  exact roundHalfEven_mono Binary64.unitsPerOne_pos (Binary64.unitsAt_strictMono.monotone hproduct)

theorem microseconds_of_fraction_zero (h : x.fractionUnits = 0) : microseconds x = 0 := by
  have hproduct : Binary64.unitsAt (productIndex x) = 0 := by
    rw [productIndex, h, Nat.zero_mul, Binary64.nearestIndex_zero]
    exact Binary64.unitsAt_of_lt (by decide)
  rw [microseconds_eq, hproduct]
  simp [roundHalfEven]

theorem wholeSeconds_of_fraction_zero (h : x.fractionUnits = 0) :
    wholeSeconds x = Numeral.signed x.negative x.wholePart := by
  rw [wholeSeconds, microseconds_of_fraction_zero h]
  rfl

/-! ### Order -/

/-- Rounding to whole seconds respects order.  On both sides of zero the whole part counts first and
then the microseconds. -/
theorem wholeSeconds_mono (h : x.signedUnits ≤ y.signedUnits) :
    wholeSeconds x ≤ wholeSeconds y := by
  unfold Binary64.signedUnits Numeral.signed at h
  unfold wholeSeconds
  cases hx : x.negative <;> cases hy : y.negative <;>
    simp only [hx, hy, if_true, Bool.false_eq_true, if_false] at h ⊢
  case false.false =>
    have hparts := Binary64.parts_le (Int.ofNat_le.mp h)
    have hmicro := microseconds_mono (x := x) (y := y)
    split_ifs <;> omega
  case true.true =>
    have hparts := Binary64.parts_le (x := y) (y := x) (by omega)
    have hmicro := microseconds_mono (x := y) (y := x)
    split_ifs <;> omega
  case true.false =>
    split_ifs <;> omega
  case false.true =>
    obtain ⟨hwhole, hfraction⟩ := Binary64.parts_of_units_zero (x := x) (by omega)
    obtain ⟨hwhole', hfraction'⟩ := Binary64.parts_of_units_zero (x := y) (by omega)
    rw [microseconds_of_fraction_zero hfraction, microseconds_of_fraction_zero hfraction', hwhole,
      hwhole']
    decide

/-! ### The carry -/

theorem microseconds_lt (h : x.fraction * 1000000 ≤ 999999) : microseconds x < 1000000 := by
  have hproduct : Binary64.magnitudeAt (productIndex x) ≤ 999999 := by
    have hle := (isNearest_productIndex x).magnitudeAt_le (m := 999999) (k := 0) (by decide)
      (by decide) (by simpa using h)
    simpa using hle
  have hnear := (roundHalfEven_near (Binary64.unitsAt (productIndex x))
    Binary64.unitsPerOne_pos).1
  rw [← microseconds_eq] at hnear
  have hlt : (microseconds x : ℚ) < 1000000 := by
    rw [Binary64.magnitudeAt] at hproduct
    rcases hnear with habove | ⟨habove, -⟩ <;> linarith
  exact_mod_cast hlt

/-- From half a microsecond below a second on, the fraction is rounded to the second. -/
theorem le_microseconds (h : 1999999 / 2 ≤ x.fraction * 1000000) : 1000000 ≤ microseconds x := by
  have hproduct : 1999999 / 2 ≤ Binary64.magnitudeAt (productIndex x) := by
    have hle := (isNearest_productIndex x).le_magnitudeAt (m := 1999999) (k := 1) (by decide)
      (by decide) (by simpa using h)
    simpa using hle
  have hnear := (roundHalfEven_near (Binary64.unitsAt (productIndex x))
    Binary64.unitsPerOne_pos).2
  rw [← microseconds_eq] at hnear
  rw [Binary64.magnitudeAt] at hproduct
  by_contra hlt
  have hle : (microseconds x : ℚ) ≤ 999999 := by exact_mod_cast (by omega : microseconds x ≤ 999999)
  rcases hnear with hbelow | ⟨hbelow, heven⟩
  · linarith
  · have heq : (microseconds x : ℚ) = 999999 := by linarith
    have : microseconds x = 999999 := by exact_mod_cast heq
    omega

/-- A negative zero counts as zero. -/
theorem wholeSeconds_of_nonneg {value : ℚ} (h : x.IsRounded value) (hvalue : 0 ≤ value) :
    wholeSeconds x = if microseconds x < 1000000 then x.wholePart else x.wholePart + 1 := by
  cases hsign : x.negative
  · rw [wholeSeconds, if_neg (by simp [hsign])]
    split <;> rfl
  · obtain rfl : value = 0 := le_antisymm (h.nonpos hsign) hvalue
    obtain ⟨hwhole, hfraction⟩ := Binary64.parts_of_units_zero h.units_eq_zero
    rw [wholeSeconds_of_fraction_zero hfraction, microseconds_of_fraction_zero hfraction, hsign,
      hwhole]
    decide

section carry

variable {n : Nat} {part : ℚ}

/-- A value between two whole numbers is rounded to a number between them. -/
theorem magnitudeAt_between (hn : n < 2 ^ 38)
    (hnearest : Binary64.IsNearest x.index ((n + part) * Binary64.unitsPerOne)) (hpart : 0 ≤ part)
    (hpart' : part < 1) :
    (n : ℚ) ≤ Binary64.magnitudeAt x.index ∧ Binary64.magnitudeAt x.index ≤ n + 1 := by
  have hsize : n + 1 ≤ 2 * Binary64.binadeSize := by
    unfold Binary64.binadeSize
    omega
  constructor
  · have hle := hnearest.le_magnitudeAt (m := n) (k := 0) (by omega) (by decide)
      (by simpa using hpart)
    simpa using hle
  · have hle := hnearest.magnitudeAt_le (m := n + 1) (k := 0) hsize (by decide)
      (by simpa using hpart'.le)
    simpa using hle

/-- A part that is clearly smaller than one is not rounded to one. -/
theorem magnitudeAt_le_of_lt (hn : n < 2 ^ 38)
    (hnearest : Binary64.IsNearest x.index ((n + part) * Binary64.unitsPerOne))
    (hpart : part < 1 - 1 / 2 ^ 16) :
    Binary64.magnitudeAt x.index ≤ n + (1 - 1 / 2 ^ 16) := by
  by_cases hsmall : n < 2 ^ 37
  · have hle := hnearest.magnitudeAt_le (m := n * 2 ^ 16 + 65535) (k := 16)
      (by unfold Binary64.binadeSize; omega) (by decide) (by push_cast; linarith)
    push_cast at hle
    linarith
  · -- the spacing is twice the distance, which is then the one to a middle
    have hlt := hnearest.magnitudeAt_lt_of_lt_middle (m := n * 2 ^ 15 + 32767) (k := 15)
      (by unfold Binary64.binadeSize; omega) (by unfold Binary64.binadeSize; omega) (by decide)
      (by push_cast; linarith)
    push_cast at hlt
    linarith

/-- Where a middle lies between the part and one, the part is rounded to one. -/
theorem le_magnitudeAt_of_middle {place : Nat} (hlow : 2 ^ 52 ≤ n * 2 ^ place)
    (hhigh : (n + 1) * 2 ^ place ≤ 2 ^ 53) (hplace : 0 < place) (hplace' : place ≤ 1074)
    (hnearest : Binary64.IsNearest x.index ((n + part) * Binary64.unitsPerOne))
    (hpart : 1 - 1 / 2 ^ (place + 1) ≤ part) : n + 1 ≤ Binary64.magnitudeAt x.index := by
  have hpos : 0 < 2 ^ place := by positivity
  have hspacing : (0 : ℚ) < 2 ^ place := by positivity
  have hsum : (n + 1) * 2 ^ place = n * 2 ^ place + 2 ^ place := Nat.succ_mul n _
  obtain ⟨half, heven⟩ : 2 ∣ 2 ^ place := dvd_pow_self 2 hplace.ne'
  obtain ⟨m, hm⟩ : ∃ m, (n + 1) * 2 ^ place = m + 1 := ⟨n * 2 ^ place + 2 ^ place - 1, by omega⟩
  have hlow' : Binary64.binadeSize ≤ m := by
    unfold Binary64.binadeSize
    omega
  have hhigh' : m < 2 * Binary64.binadeSize := by
    unfold Binary64.binadeSize
    omega
  have hodd : m % 2 = 1 := by
    rw [heven, Nat.mul_left_comm] at hm
    omega
  have hcast : (m : ℚ) = (n + 1) * 2 ^ place - 1 := by
    rw [eq_sub_iff_add_eq]
    exact_mod_cast hm.symm
  have hmiddle : ((m : ℚ) + 1 / 2) / 2 ^ place = n + (1 - 1 / 2 ^ (place + 1)) := by
    rw [hcast, pow_succ]
    field_simp
    ring
  have hle := hnearest.le_magnitudeAt_of_middle_le hlow' hhigh' hplace' hodd
    (by rw [hmiddle]; linarith)
  rwa [hcast, sub_add_cancel, mul_div_cancel_right₀ _ hspacing.ne'] at hle

/-- A part that is close enough to one is rounded to one or to less than half a microsecond below
it. -/
theorem le_magnitudeAt_of_le (hn : n < 2 ^ 38)
    (hnearest : Binary64.IsNearest x.index ((n + part) * Binary64.unitsPerOne))
    (hpart : 1 - 1 / 2 ^ 21 ≤ part) :
    n + (1 - 1 / 2 ^ 21) ≤ Binary64.magnitudeAt x.index := by
  by_cases hsmall : n < 2 ^ 32
  · have hle := hnearest.le_magnitudeAt (m := n * 2 ^ 21 + 2097151) (k := 21)
      (by unfold Binary64.binadeSize; omega) (by decide) (by push_cast; linarith)
    push_cast at hle
    linarith
  · have hne : n ≠ 0 := by omega
    have hlog : 32 ≤ n.log2 := (Nat.le_log2 hne).mpr (Nat.not_lt.mp hsmall)
    have hlog' : n.log2 < 38 := (Nat.log2_lt hne).mpr hn
    have hsplit : n.log2 + (52 - n.log2) = 52 := by omega
    have hlow : 2 ^ 52 ≤ n * 2 ^ (52 - n.log2) := by
      calc 2 ^ 52 = 2 ^ n.log2 * 2 ^ (52 - n.log2) := by rw [← pow_add, hsplit]
        _ ≤ n * 2 ^ (52 - n.log2) := Nat.mul_le_mul_right _ (Nat.log2_self_le hne)
    have hhigh : (n + 1) * 2 ^ (52 - n.log2) ≤ 2 ^ 53 := by
      calc (n + 1) * 2 ^ (52 - n.log2) ≤ 2 ^ (n.log2 + 1) * 2 ^ (52 - n.log2) :=
            Nat.mul_le_mul_right _ Nat.lt_log2_self
        _ = 2 ^ 53 := by rw [← pow_add, Nat.add_right_comm, hsplit]
    have hclose : (1 : ℚ) / 2 ^ 21 ≤ 1 / 2 ^ (52 - n.log2 + 1) :=
      one_div_le_one_div_of_le (by positivity) (pow_le_pow_right₀ (by norm_num) (by omega))
    have hle := le_magnitudeAt_of_middle hlow hhigh (by omega) (by omega) hnearest (by linarith)
    linarith

/-! ### Whole seconds of a value between two seconds -/

theorem wholeSeconds_between (hn : n < 2 ^ 38) (h : x.IsRounded (n + part)) (hpart : 0 ≤ part)
    (hpart' : part < 1) : wholeSeconds x = n ∨ wholeSeconds x = n + 1 := by
  have hvalue : 0 ≤ n + part := by positivity
  obtain ⟨hlow, hhigh⟩ := magnitudeAt_between hn (h.nearest_of_nonneg hvalue) hpart hpart'
  rw [wholeSeconds_of_nonneg h hvalue]
  rcases hhigh.lt_or_eq with hlt | heq
  · rw [Binary64.wholePart_eq hlow hlt]
    split
    · exact .inl rfl
    · exact .inr rfl
  · obtain ⟨hwhole, hfraction⟩ := Binary64.parts_of_eq (n := n + 1) (by exact_mod_cast heq)
    rw [microseconds_of_fraction_zero hfraction, hwhole]
    exact .inr rfl

/-- A part that is clearly smaller than one is dropped. -/
theorem wholeSeconds_eq_of_lt (hn : n < 2 ^ 38) (h : x.IsRounded (n + part)) (hpart : 0 ≤ part)
    (hpart' : part < 1 - 1 / 2 ^ 16) : wholeSeconds x = n := by
  have hvalue : 0 ≤ n + part := by positivity
  have hnearest := h.nearest_of_nonneg hvalue
  obtain ⟨hlow, -⟩ := magnitudeAt_between hn hnearest hpart (by linarith)
  have hhigh := magnitudeAt_le_of_lt hn hnearest hpart'
  have hwhole : x.wholePart = n := Binary64.wholePart_eq hlow (by linarith)
  have hmicro : microseconds x < 1000000 := by
    refine microseconds_lt ?_
    rw [Binary64.magnitudeAt_index, hwhole] at hhigh
    linarith
  rw [wholeSeconds_of_nonneg h hvalue, if_pos hmicro, hwhole]

/-- A part that is less than half a microsecond away from one is carried. -/
theorem wholeSeconds_eq_of_le (hn : n < 2 ^ 38) (h : x.IsRounded (n + part))
    (hpart : 1 - 1 / 2 ^ 21 ≤ part) (hpart' : part < 1) : wholeSeconds x = n + 1 := by
  have hpos : 0 ≤ part := by linarith
  have hvalue : 0 ≤ n + part := by positivity
  have hnearest := h.nearest_of_nonneg hvalue
  obtain ⟨hlow, hhigh⟩ := magnitudeAt_between hn hnearest hpos hpart'
  have hclose := le_magnitudeAt_of_le hn hnearest hpart
  rw [wholeSeconds_of_nonneg h hvalue]
  rcases hhigh.lt_or_eq with hlt | heq
  · have hwhole : x.wholePart = n := Binary64.wholePart_eq hlow hlt
    have hmicro : 1000000 ≤ microseconds x := by
      refine le_microseconds ?_
      rw [Binary64.magnitudeAt_index, hwhole] at hclose
      linarith
    rw [if_neg hmicro.not_gt, hwhole]
    rfl
  · obtain ⟨hwhole, hfraction⟩ := Binary64.parts_of_eq (n := n + 1) (by exact_mod_cast heq)
    rw [microseconds_of_fraction_zero hfraction, hwhole]
    rfl

end carry

/-! ### Whole seconds of an integer -/

theorem wholePart_le_natAbs (x : Binary64) : x.wholePart ≤ (wholeSeconds x).natAbs := by
  unfold wholeSeconds
  split_ifs <;> omega

theorem wholeSeconds_of_integer {t : Int} (h : x.IsRounded t)
    (ht : t.natAbs ≤ 2 * Binary64.binadeSize) : wholeSeconds x = t := by
  have hmagnitude : Binary64.magnitudeAt x.index = t.natAbs := by
    have hle := h.nearest.magnitudeAt_le (k := 0) ht (by decide) (by simp)
    have hge := h.nearest.le_magnitudeAt (k := 0) ht (by decide) (by simp)
    rw [pow_zero, div_one] at hle hge
    exact le_antisymm hle hge
  obtain ⟨hwhole, hfraction⟩ := Binary64.parts_of_eq hmagnitude
  rw [wholeSeconds_of_fraction_zero hfraction, hwhole]
  cases hsign : x.negative
  · have hnonneg : 0 ≤ t := by exact_mod_cast h.nonneg hsign
    exact Int.natAbs_of_nonneg hnonneg
  · have hnonpos : t ≤ 0 := by exact_mod_cast h.nonpos hsign
    show -(t.natAbs : Int) = t
    omega

/-- An integer that is too large to be exact is far away from zero. -/
theorem le_natAbs_wholeSeconds {t : Int} (h : x.IsRounded t)
    (ht : 2 * Binary64.binadeSize ≤ t.natAbs) :
    2 * Binary64.binadeSize ≤ (wholeSeconds x).natAbs := by
  have hge := h.nearest.le_magnitudeAt (m := 2 * Binary64.binadeSize) (k := 0) le_rfl (by decide)
    (by rw [← Int.cast_abs, ← Nat.cast_natAbs, pow_zero, div_one]; exact_mod_cast ht)
  rw [pow_zero, div_one] at hge
  exact (Binary64.le_wholePart hge).trans (wholePart_le_natAbs x)

end UnixTime
end TableExport
