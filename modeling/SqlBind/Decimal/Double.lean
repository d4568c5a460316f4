/-
Decimals and doubles. A double becomes the decimal of about sixteen digits near
it: its binary exponent is traded for a decimal one, excess digits are rounded
off, and trailing zeros are dropped. A decimal becomes a double by adding its
whole part and its fraction and rounding the sum to the decimal's places.
-/
import SqlBind.Decimal.Basic
import SqlBind.Number.Double

namespace SqlBind.Decimal

/-- A number `coefficient * 10 ^ exponent` on its way to the limits. -/
structure Scaled where
  coefficient : Nat
  exponent : Int

/-- One factor one half, as five tenths: the coefficient is halved if that is
exact or if five times it would not fit. -/
def Scaled.half (s : Scaled) : Scaled :=
  if s.coefficient % 2 = 0 || limit ≤ s.coefficient * 5 then
    ⟨s.coefficient / 2, s.exponent + 1⟩
  else ⟨s.coefficient * 5, s.exponent⟩

/-- One digit less, a half going up. -/
def Scaled.dropDigit (s : Scaled) : Scaled :=
  ⟨roundDiv .awayFromZero s.coefficient 10, s.exponent + 1⟩

/-- Digits dropped until the exponent is not below `-maxScale`; what vanishes on
the way is zero without places. -/
def Scaled.fitScale : Nat → Scaled → Scaled
  | 0, s => s
  | digits + 1, s =>
    if s.coefficient < 10 then ⟨0, 0⟩ else fitScale digits s.dropDigit

/-- At most `digits` digits dropped while the coefficient is longer than a
double's fraction. -/
def Scaled.fitFraction : Nat → Scaled → Scaled
  | 0, s => s
  | digits + 1, s => if s.coefficient < 2 ^ 52 then s else fitFraction digits s.dropDigit

/-- At most `digits` trailing zeros dropped. -/
def Scaled.dropZeros : Nat → Scaled → Scaled
  | 0, s => s
  | digits + 1, s =>
    if s.coefficient % 10 = 0 then dropZeros digits ⟨s.coefficient / 10, s.exponent + 1⟩ else s

/-- How many places a scaled number has. -/
def Scaled.places (s : Scaled) : Nat := (-s.exponent).toNat

/-- The decimal near a finite double. A whole double is that number or, if it
does not fit, none. -/
def ofDouble? (x : Double) : Option Decimal :=
  if !x.isFinite then none
  else if x.isZero then ofParts? x.isNegative 0 0
  else
    let (m, q) := BinaryFormat.binary64.parts x.magnitude
    if 0 ≤ q then ofParts? x.isNegative (m * 2 ^ q.toNat) 0
    else
      let s := Nat.repeat Scaled.half (-q).toNat ⟨m, q⟩
      let s := s.fitScale (s.places - maxScale)
      let s := s.fitFraction s.places
      let s := s.dropZeros s.places
      ofParts? x.isNegative s.coefficient s.places

/-- The double near a decimal. -/
def toDouble (d : Decimal) : Double :=
  let unit := 10 ^ d.scale
  let whole := Double.ofRatio false (d.coefficient / unit) 1
  let power := Double.ofRatio false unit 1
  let fraction := (Double.ofRatio false (d.coefficient % unit) 1).divMagnitude power
  let magnitude :=
    if fraction.isZero then whole
    else ((whole.addMagnitude fraction).mulMagnitude power).roundMagnitude.divMagnitude power
  if d.negative && (d.scale != 0 || d.coefficient != 0) then magnitude.neg else magnitude

end SqlBind.Decimal
