/-
Binary floating-point formats in exact arithmetic. A finite magnitude is
`m * 2 ^ q` for a whole `m` and the exponent `q` of its last place; its bits are
`(q - leastQuantum) * 2 ^ fractionBits + m`, so rounding a ratio means choosing
`q` and rounding one quotient.
-/
import SqlBind.Number.Rounding

namespace SqlBind

/-- A format by the widths of its stored fraction and of its exponent field. -/
structure BinaryFormat where
  fractionBits : Nat
  exponentBits : Nat
  deriving DecidableEq, Repr

namespace BinaryFormat

/-- Eight octets. -/
def binary64 : BinaryFormat := ⟨52, 11⟩

/-- Four octets. -/
def binary32 : BinaryFormat := ⟨23, 8⟩

/-- The exponent of the last place of the least numbers. -/
def leastQuantum (f : BinaryFormat) : Int :=
  2 - 2 ^ (f.exponentBits - 1) - f.fractionBits

/-- The bits of infinity: a full exponent field over an empty fraction. -/
def infinity (f : BinaryFormat) : Nat := (2 ^ f.exponentBits - 1) * 2 ^ f.fractionBits

/-- The sign bit alone. -/
def signBit (f : BinaryFormat) : Nat := 2 ^ (f.exponentBits + f.fractionBits)

/-- The bit that marks a NaN as quiet. -/
def quietBit (f : BinaryFormat) : Nat := 2 ^ (f.fractionBits - 1)

/-- The ratio `num / den` counted in units of `2 ^ q`, again as a ratio. -/
def inUnits (num den : Nat) (q : Int) : Nat × Nat :=
  (num * 2 ^ (-q).toNat, den * 2 ^ q.toNat)

/-- The greatest `e` with `2 ^ e ≤ num / den`, for a positive ratio. -/
def log2Ratio (num den : Nat) : Int :=
  let guess : Int := (num.log2 : Int) - (den.log2 : Int)
  let (n, d) := inUnits num den guess
  if d ≤ n then guess else guess - 1

/-- The exponent of the last place of the number nearest to a positive ratio. -/
def quantum (f : BinaryFormat) (num den : Nat) : Int :=
  max f.leastQuantum (log2Ratio num den - f.fractionBits)

/-- The magnitude bits of the number nearest to `num / den`, a tie going to the
even one; what lies beyond the greatest number is infinity. -/
def ofRatio (f : BinaryFormat) (num den : Nat) : Nat :=
  if num = 0 then 0
  else
    let q := f.quantum num den
    let (n, d) := inUnits num den q
    min f.infinity ((q - f.leastQuantum).toNat * 2 ^ f.fractionBits + roundDiv .toEven n d)

/-- A finite magnitude as a whole number of last places and the exponent of the
last place. -/
def parts (f : BinaryFormat) (magnitude : Nat) : Nat × Int :=
  let exponent := magnitude / 2 ^ f.fractionBits
  let fraction := magnitude % 2 ^ f.fractionBits
  if exponent = 0 then (fraction, f.leastQuantum)
  else (2 ^ f.fractionBits + fraction, f.leastQuantum + (exponent - 1 : Nat))

/-- A finite magnitude as a ratio. -/
def toRatio (f : BinaryFormat) (magnitude : Nat) : Nat × Nat :=
  let (m, q) := f.parts magnitude
  (m * 2 ^ q.toNat, 2 ^ (-q).toNat)

/-- The magnitude bits of the number nearest to `significand * 10 ^ exponent`.
Exponents far outside the format are decided without the power: a positive
significand is at least one, and one of `b` bits is below `10 ^ (b / 3 + 1)`. -/
def ofScientific (f : BinaryFormat) (significand : Nat) (exponent : Int) : Nat :=
  if significand = 0 then 0
  else if 400 < exponent then f.infinity
  else if exponent + (significand.log2 / 3 + 1 : Nat) < -400 then 0
  else f.ofRatio (significand * 10 ^ exponent.toNat) (10 ^ (-exponent).toNat)

/-- A magnitude of one format in another: finite ones are rounded, infinity is
kept, and a NaN keeps the leading bits of its payload and becomes quiet. -/
def convert (source target : BinaryFormat) (magnitude : Nat) : Nat :=
  if magnitude < source.infinity then
    let (n, d) := source.toRatio magnitude
    target.ofRatio n d
  else if magnitude = source.infinity then target.infinity
  else
    let payload := (magnitude - source.infinity) * 2 ^ target.fractionBits / 2 ^ source.fractionBits
    target.infinity + (payload ||| target.quietBit)

/-- The first whole numbers that a signed word does not hold are far from infinite. -/
theorem ofRatio_lt_infinity {m : Nat} (low : 2 ^ 63 ≤ m) (high : m < 2 ^ 64) :
    binary64.ofRatio m 1 < binary64.infinity := by
  have log : m.log2 = 63 := by
    rw [Nat.log2_eq_iff (by omega)]
    omega
  have ratio : log2Ratio m 1 = 63 := by
    have guess : (m.log2 : Int) - (Nat.log2 1 : Int) = 63 := by
      rw [log]
      rfl
    simp only [log2Ratio, guess, inUnits]
    exact if_pos (by simpa using low)
  have quantum : binary64.quantum m 1 = 11 := by
    rw [quantum, ratio]
    rfl
  have units : inUnits m 1 11 = (m, 2048) := by
    simp [inUnits]
  have rounded := roundDiv_le .toEven m 2048
  have infinity : binary64.infinity = 2047 * 2 ^ 52 := rfl
  have place : (11 - binary64.leastQuantum).toNat * 2 ^ binary64.fractionBits =
      1085 * 2 ^ 52 := rfl
  simp only [ofRatio, if_neg (show ¬m = 0 by omega), quantum, units, infinity, place]
  omega

end BinaryFormat
end SqlBind
