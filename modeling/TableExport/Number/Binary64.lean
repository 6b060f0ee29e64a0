import TableExport.Number.Numeral

/-! # Finite binary64 numbers

The finite binary64 magnitudes, counted upward from zero: the number with index `i` is the `i`-th.
Up to the first normal binade the magnitude is the index itself, in units of the least positive
number `2 ^ (-1074)`; from there on each binade has `2 ^ 52` numbers, spaced twice as far as in
the binade before.  The index is also the number's code word without its sign bit.

`nearestIndex n d` is the index of the magnitude nearest to the ratio `n / d`, ties going to the
even one; from `indexLimit` on the ratio is beyond the finite range.

Main statements: in the first two binades the magnitude is the index (`unitsAt_of_lt`), all
magnitudes are below `2 ^ 1024` (`units_lt`), and the nearest magnitude to zero is zero
(`nearestIndex_zero`). -/

namespace TableExport

/-- The quotient of two naturals rounded to the nearest natural, a half going to the even one. -/
def roundHalfEven (n d : Nat) : Nat :=
  let quotient := n / d
  let remainder := n % d
  if 2 * remainder < d then quotient
  else if d < 2 * remainder then quotient + 1
  else quotient + quotient % 2

namespace Binary64

/-- The number of magnitudes in a binade: two to the power 52. -/
def binadeSize : Nat := 4503599627370496

/-- The number of least positive numbers in one. -/
def unitsPerOne : Nat := Nat.pow 2 1074

/-- The number of finite magnitudes. -/
def indexLimit : Nat := 2047 * binadeSize

/-- The magnitude with an index, in units of the least positive number. -/
def unitsAt (index : Nat) : Nat :=
  if index < 2 * binadeSize then index
  else (binadeSize + index % binadeSize) * Nat.pow 2 (index / binadeSize - 1)

/-- The index of the magnitude nearest to a ratio, a tie going to the even index. -/
def nearestIndex (n d : Nat) : Nat :=
  let scaled := n * unitsPerOne
  let binade := (scaled / d).log2 - 52
  binade * binadeSize + roundHalfEven scaled (d * Nat.pow 2 binade)

end Binary64

/-- A finite binary64 number: a sign and the index of its magnitude. -/
structure Binary64 where
  negative : Bool
  index : Nat
  index_lt : index < Binary64.indexLimit
  deriving DecidableEq, Repr

namespace Binary64

/-- The magnitude in units of the least positive number. -/
def units (x : Binary64) : Nat :=
  unitsAt x.index

/-- The number with a sign and an index, unless the index is beyond the finite range. -/
def ofIndex? (negative : Bool) (index : Nat) : Option Binary64 :=
  if h : index < indexLimit then some ⟨negative, index, h⟩ else none

/-- The number nearest to a ratio, unless it is beyond the finite range. -/
def ofRatio? (negative : Bool) (n d : Nat) : Option Binary64 :=
  ofIndex? negative (nearestIndex n d)

/-- The code word: the sign bit above the index. -/
def bits (x : Binary64) : Nat :=
  (if x.negative then 2048 * binadeSize else 0) + x.index

/-- The part of the magnitude before the binary point. -/
def wholePart (x : Binary64) : Nat :=
  x.units / unitsPerOne

/-- The part of the magnitude after the binary point, in units of the least positive number. -/
def fractionUnits (x : Binary64) : Nat :=
  x.units % unitsPerOne

/-- The value of a number without a fraction. -/
def toInt? (x : Binary64) : Option Int :=
  if x.fractionUnits = 0 then some (Numeral.signed x.negative x.wholePart) else none

/-! ### Laws -/

theorem unitsAt_of_lt {index : Nat} (h : index < 2 * binadeSize) : unitsAt index = index := by
  simp only [unitsAt, if_pos h]

/-- A magnitude has fewer than 54 binary digits, moved by the place of its binade. -/
theorem unitsAt_lt {index bound : Nat} (last : Nat) (hlast : index / binadeSize ≤ last + 1)
    (hbound : 2 * binadeSize * Nat.pow 2 last = bound) : unitsAt index < bound := by
  have hplace : index % binadeSize < binadeSize := Nat.mod_lt _ (by decide)
  have hpos : 0 < Nat.pow 2 last := Nat.pow_pos (by decide)
  rw [← hbound]
  unfold unitsAt
  split
  · next hlow => exact Nat.lt_of_lt_of_le hlow (Nat.le_mul_of_pos_right _ hpos)
  · have hspacing : Nat.pow 2 (index / binadeSize - 1) ≤ Nat.pow 2 last :=
      Nat.pow_le_pow_right (by decide) (by omega)
    exact Nat.mul_lt_mul_of_lt_of_le (by omega) hspacing hpos

theorem units_lt (x : Binary64) : x.units < Nat.pow 2 1024 * unitsPerOne := by
  have hbinade : x.index / binadeSize < 2047 := (Nat.div_lt_iff_lt_mul (by decide)).mpr x.index_lt
  exact unitsAt_lt 2045 (Nat.le_of_lt_succ hbinade) (by decide +kernel)

theorem nearestIndex_zero (d : Nat) : nearestIndex 0 d = 0 := by
  simp [nearestIndex, roundHalfEven]

theorem units_eq (x : Binary64) : x.units = x.wholePart * unitsPerOne + x.fractionUnits := by
  rw [wholePart, fractionUnits, Nat.mul_comm]
  exact (Nat.div_add_mod _ _).symm

end Binary64
end TableExport
