/-
The fewest decimal digits that read back as a number. The reals that round to a
finite magnitude `m * 2 ^ q` form an interval around it, ends included exactly
if `m` is even; for one, two, … digits the magnitude's two neighbours on that
decimal grid are tested, and the first grid with a hit wins.
-/
import SqlBind.Number.Double

namespace SqlBind.Shortest

/-- `digits` denotes `significand * 10 ^ exponent`. -/
structure Digits where
  significand : Nat
  exponent : Int
  deriving DecidableEq, Repr

/-- The interval of ratios `n / den` that round to one magnitude: from `low` to
`high`, both ends belonging to it if `closed`, with the magnitude at `value`. -/
structure Interval where
  low : Nat
  value : Nat
  high : Nat
  den : Nat
  closed : Bool

/-- The interval of a positive magnitude, counted in quarters of the last place:
the neighbour below a power of two is only half a last place away. -/
def Interval.of (f : BinaryFormat) (magnitude : Nat) : Interval :=
  let (m, q) := f.parts magnitude
  let unit := 2 ^ q.toNat
  let narrow := magnitude % 2 ^ f.fractionBits == 0 && 2 ^ f.fractionBits < magnitude
  { low := (4 * m - if narrow then 1 else 2) * unit
    value := 4 * m * unit
    high := (4 * m + 2) * unit
    den := 4 * 2 ^ (-q).toNat
    closed := m % 2 == 0 }

/-- Whether `significand * 10 ^ exponent` lies in the interval. -/
def Interval.contains (i : Interval) (d : Digits) : Bool :=
  let n := d.significand * 10 ^ d.exponent.toNat * i.den
  let s := 10 ^ (-d.exponent).toNat
  if i.closed then i.low * s ≤ n && n ≤ i.high * s else i.low * s < n && n < i.high * s

/-- The greatest `e` with `10 ^ e ≤ num / den`, sought downward from `start` in
at most `steps` steps. -/
def log10From (num den : Nat) (start : Int) : Nat → Int
  | 0 => start
  | steps + 1 =>
    if den * 10 ^ start.toNat ≤ num * 10 ^ (-start).toNat then start
    else log10From num den (start - 1) steps

/-- The decimal exponent of the leading digit of a positive ratio. Its binary
exponent times `30103 / 100000` is within one of it, from above after adding one. -/
def log10Ratio (num den : Nat) : Int :=
  log10From num den (BinaryFormat.log2Ratio num den * 30103 / 100000 + 1) 4

/-- The neighbour above nine on a grid is one on the next coarser grid. -/
def Digits.carry (d : Digits) : Digits :=
  if d.significand = 10 then ⟨1, d.exponent + 1⟩ else d

/-- The better of a magnitude's two neighbours on the grid of `10 ^ exponent`,
if one of them lies in the interval. -/
def onGrid (tie : Tie) (i : Interval) (exponent : Int) : Option Digits :=
  let num := i.value * 10 ^ (-exponent).toNat
  let den := i.den * 10 ^ exponent.toNat
  let below : Digits := ⟨num / den, exponent⟩
  let above : Digits := ⟨num / den + 1, exponent⟩
  match i.contains below, i.contains above with
  | true, true => some (Digits.carry ⟨roundDiv tie num den, exponent⟩)
  | true, false => some below
  | false, true => some above.carry
  | false, false => none

/-- The first hit on the grids from `exponent` downward. -/
def firstHit (tie : Tie) (i : Interval) (exponent : Int) : Nat → Digits
  | 0 => ⟨i.value / i.den, 0⟩
  | grids + 1 => (onGrid tie i exponent).getD (firstHit tie i (exponent - 1) grids)

/-- The fewest digits that read back as a positive finite magnitude of a format,
and of those the nearest. Seventeen digits always suffice for binary64. -/
def ofMagnitude (tie : Tie) (f : BinaryFormat) (magnitude : Nat) : Digits :=
  let i := Interval.of f magnitude
  firstHit tie i (log10Ratio i.value i.den) 18

end SqlBind.Shortest
