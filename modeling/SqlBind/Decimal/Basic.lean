/-
Decimal numbers: a sign, a coefficient of at most ninety-six bits and a scale of
at most twenty-eight places. The scale is part of the number, so `1.5` and
`1.50` differ, and a zero may carry a minus sign.
-/
import SqlBind.Number.Numeral
import SqlBind.Number.Word

namespace SqlBind

/-- The number `coefficient / 10 ^ scale`, negated if `negative`. -/
structure Decimal where
  negative : Bool
  coefficient : Nat
  scale : Nat
  coefficient_lt : coefficient < 2 ^ 96
  scale_le : scale ≤ 28
  deriving DecidableEq

namespace Decimal

/-- The bound that every coefficient stays under. -/
def limit : Nat := 2 ^ 96

/-- The most places after the point. -/
def maxScale : Nat := 28

/-- A decimal from its parts, if they are within the limits. -/
def ofParts? (negative : Bool) (coefficient scale : Nat) : Option Decimal :=
  if h : coefficient < 2 ^ 96 ∧ scale ≤ 28 then
    some ⟨negative, coefficient, scale, h.1, h.2⟩
  else none

/-- A decimal from its parts, where a zero has no sign. -/
def ofUnsignedZero? (negative : Bool) (coefficient scale : Nat) : Option Decimal :=
  ofParts? (negative && coefficient != 0) coefficient scale

/-- A whole number, with no places. -/
def ofInt64 (n : Int64) : Decimal where
  negative := decide (n.toInt < 0)
  coefficient := n.toInt.natAbs
  scale := 0
  coefficient_lt := by
    have low := n.le_toInt
    have high := n.toInt_lt
    omega
  scale_le := by omega

def isZero (d : Decimal) : Bool := d.coefficient == 0

/-- The greatest whole number not above the decimal. -/
def floor (d : Decimal) : Int :=
  let n : Int := if d.negative then -d.coefficient else d.coefficient
  n / (10 ^ d.scale : Nat)

/-- The decimal without its places. -/
def truncate (d : Decimal) : Int :=
  let n : Int := (d.coefficient / 10 ^ d.scale : Nat)
  if d.negative then -n else n

/-- The whole part as a sixty-four-bit integer, if it fits. -/
def toInt64? (d : Decimal) : Option Int64 := int64? d.truncate

/-- The digits with the point before the last `scale` of them. -/
def toText (d : Decimal) : String :=
  let digits := Numeral.padded (d.scale + 1) d.coefficient
  let whole := digits.take (digits.length - d.scale)
  let places := digits.drop (digits.length - d.scale)
  .ofList ((if d.negative then ['-'] else []) ++ whole
    ++ (if d.scale = 0 then [] else '.' :: places))

end Decimal
end SqlBind
