import TableExport.Number.Binary64

/-! # Decimal literals

A decimal literal is an optional sign, digits with an optional point among or around them, and an
optional exponent.  It denotes `significand * 10 ^ exponent` exactly; `toBinary64?` is the nearest
binary64 number.  A literal whose exponent alone decides the answer (far above the finite range or
far below the least positive number) is settled without its power of ten. -/

namespace TableExport

/-- The exact value of a decimal literal: `significand * 10 ^ exponent` with a sign. -/
structure Decimal where
  negative : Bool
  significand : Nat
  exponent : Int
  deriving DecidableEq, Repr

namespace Decimal

/-- The value of the digits before and after the point, moved by an exponent. -/
def ofDigits (negative : Bool) (whole fraction : List Char) (exponent : Int) : Decimal :=
  ⟨negative, Numeral.ofDigits (whole ++ fraction), exponent - fraction.length⟩

/-- An optional exponent that ends the literal. -/
def exponent? : List Char → Option Int
  | [] => some 0
  | mark :: rest =>
      let (negative, digits) := Numeral.splitSign rest
      if (mark = 'e' ∨ mark = 'E') ∧ digits ≠ [] ∧ digits.all Char.isDigit then
        some (Numeral.signed negative (Numeral.ofDigits digits))
      else none

/-- The digits after an optional point, and what follows them. -/
def splitFraction : List Char → List Char × List Char
  | '.' :: rest => Numeral.splitDigits rest
  | cs => ([], cs)

/-- The value of a decimal literal of ASCII characters. -/
def read? (cs : List Char) : Option Decimal :=
  let (negative, body) := Numeral.splitSign cs
  let (whole, afterWhole) := Numeral.splitDigits body
  let (fraction, rest) := splitFraction afterWhole
  if whole = [] ∧ fraction = [] then none
  else (exponent? rest).map (ofDigits negative whole fraction)

/-- The numerator and denominator of the magnitude. -/
def ratio (x : Decimal) : Nat × Nat :=
  if 0 ≤ x.exponent then (x.significand * Nat.pow 10 x.exponent.toNat, 1)
  else (x.significand, Nat.pow 10 (-x.exponent).toNat)

/-- The magnitude is at least `10 ^ 310`. -/
def isHuge (x : Decimal) : Bool :=
  x.significand ≠ 0 && 310 < x.exponent

/-- The magnitude is below `10 ^ (-330)`: the significand has at most `log2 + 1` digits. -/
def isTiny (x : Decimal) : Bool :=
  x.significand = 0 || x.exponent + x.significand.log2 + 1 < -330

/-- The nearest binary64 number, unless the literal is beyond the finite range. -/
def toBinary64? (x : Decimal) : Option Binary64 :=
  if x.isTiny then Binary64.ofIndex? x.negative 0
  else if x.isHuge then none
  else Binary64.ofRatio? x.negative x.ratio.1 x.ratio.2

end Decimal
end TableExport
