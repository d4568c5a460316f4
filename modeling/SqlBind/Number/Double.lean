/-
Double-precision numbers as their sixty-four bits. Equality is equality of bits,
so a NaN equals itself and the two zeros differ; arithmetic is exact on ratios
and rounded once.
-/
import SqlBind.Number.Binary

namespace SqlBind

/-- A binary64 number, told apart from every other by its bits. -/
structure Double where
  bits : UInt64
  deriving DecidableEq, Repr

namespace Double

/-- A number from its sign and the bits of its magnitude. -/
def ofMagnitude (negative : Bool) (magnitude : Nat) : Double :=
  ⟨.ofNat (magnitude + if negative then BinaryFormat.binary64.signBit else 0)⟩

/-- Whether the sign bit is set; a zero and a NaN have a sign too. -/
def isNegative (x : Double) : Bool := BinaryFormat.binary64.signBit ≤ x.bits.toNat

/-- The bits under the sign. -/
def magnitude (x : Double) : Nat := x.bits.toNat % BinaryFormat.binary64.signBit

def isFinite (x : Double) : Bool := x.magnitude < BinaryFormat.binary64.infinity

def isInfinite (x : Double) : Bool := x.magnitude == BinaryFormat.binary64.infinity

def isNaN (x : Double) : Bool := BinaryFormat.binary64.infinity < x.magnitude

/-- Either zero. -/
def isZero (x : Double) : Bool := x.magnitude == 0

/-- The number nearest to a signed ratio. -/
def ofRatio (negative : Bool) (num den : Nat) : Double :=
  ofMagnitude negative (BinaryFormat.binary64.ofRatio num den)

/-- The number nearest to a whole number. -/
def ofInt (n : Int) : Double := ofRatio (n < 0) n.natAbs 1

/-- The magnitude of a finite number as a ratio. -/
def ratio (x : Double) : Nat × Nat := BinaryFormat.binary64.toRatio x.magnitude

/-- The greatest whole number not above a finite number. -/
def floor (x : Double) : Int :=
  let (n, d) := x.ratio
  if x.isNegative then -((n + d - 1) / d : Nat) else (n / d : Nat)

/-- The same magnitude with the other sign. -/
def neg (x : Double) : Double := ofMagnitude (!x.isNegative) x.magnitude

/-- The product of two finite magnitudes, rounded once. -/
def mulMagnitude (x y : Double) : Double :=
  ofRatio false (x.ratio.1 * y.ratio.1) (x.ratio.2 * y.ratio.2)

/-- The quotient of two finite magnitudes, rounded once. -/
def divMagnitude (x y : Double) : Double :=
  ofRatio false (x.ratio.1 * y.ratio.2) (x.ratio.2 * y.ratio.1)

/-- The sum of two finite magnitudes, rounded once. -/
def addMagnitude (x y : Double) : Double :=
  ofRatio false (x.ratio.1 * y.ratio.2 + y.ratio.1 * x.ratio.2) (x.ratio.2 * y.ratio.2)

/-- The whole number nearest to a finite magnitude, a half going up. -/
def roundMagnitude (x : Double) : Double :=
  ofRatio false (roundDiv .awayFromZero x.ratio.1 x.ratio.2) 1

/-- The single-precision bits of the nearest single-precision number. -/
def toSingle (x : Double) : UInt32 :=
  .ofNat (BinaryFormat.binary64.convert .binary32 x.magnitude
    + if x.isNegative then BinaryFormat.binary32.signBit else 0)

/-- The number that single-precision bits denote. -/
def ofSingle (bits : UInt32) : Double :=
  ofMagnitude (BinaryFormat.binary32.signBit ≤ bits.toNat)
    (BinaryFormat.binary32.convert .binary64 (bits.toNat % BinaryFormat.binary32.signBit))

theorem magnitude_ofMagnitude (negative : Bool) {m : Nat}
    (h : m < BinaryFormat.binary64.signBit) : (ofMagnitude negative m).magnitude = m := by
  have sign : BinaryFormat.binary64.signBit = 2 ^ 63 := rfl
  rw [sign] at h
  rw [magnitude, ofMagnitude, sign, UInt64.toNat_ofNat']
  cases negative
  · simp only [Bool.false_eq_true, if_false]
    omega
  · simp only [if_true]
    omega

theorem isFinite_ofInt {n : Int} (low : 2 ^ 63 ≤ n) (high : n < 2 ^ 64) :
    (ofInt n).isFinite = true := by
  obtain ⟨m, rfl⟩ := Int.eq_ofNat_of_zero_le (show 0 ≤ n by omega)
  have finite : BinaryFormat.binary64.ofRatio m 1 < BinaryFormat.binary64.infinity :=
    BinaryFormat.ofRatio_lt_infinity (by omega) (by omega)
  have small : BinaryFormat.binary64.ofRatio m 1 < BinaryFormat.binary64.signBit :=
    Nat.lt_trans finite (by decide)
  rw [isFinite, ofInt, ofRatio, Int.natAbs_natCast, magnitude_ofMagnitude _ small]
  exact decide_eq_true finite

end Double
end SqlBind
