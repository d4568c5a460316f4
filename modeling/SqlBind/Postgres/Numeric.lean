/-
Decimals on the wire. A decimal is written in groups of four digits that are
aligned at the point: how many groups there are, the power of ten thousand of
the first, the sign, the scale, and the groups. Zero has no group, no sign and no
scale.
-/
import SqlBind.Decimal.Basic
import SqlBind.Number.BigEndian
import SqlBind.Number.Rounding

namespace SqlBind.Postgres.Numeric

/-- The mark of a negative number. -/
def negativeMark : Nat := 0x4000

/-- The groups of a number, the highest first; none for zero. -/
def groups (n : Nat) : List Nat :=
  if n = 0 then [] else groups (n / 10000) ++ [n % 10000]
termination_by n
decreasing_by omega

/-- A list without the zeros at its end. -/
def dropZeros (ns : List Nat) : List Nat := (ns.reverse.dropWhile (· = 0)).reverse

/-- What is written for a decimal that is not zero: the power of the first group
and the groups. Zeros after the last group are dropped, but none before the point. -/
def parts (d : Decimal) : Int × List Nat :=
  let fractionGroups := (d.scale + 3) / 4
  let all := groups (d.coefficient * 10 ^ (4 * fractionGroups - d.scale))
  let whole := all.length - fractionGroups
  let weight : Int := (all.length : Int) - fractionGroups - 1
  if 0 ≤ weight then (weight, all.take whole ++ dropZeros (all.drop whole))
  else (weight, all)

/-- The octets of the parts of a decimal. -/
def layout (weight : Int) (negative : Bool) (scale : Nat) (groups : List Nat) : List UInt8 :=
  BigEndian.encode 2 groups.length ++ BigEndian.encodeInt 2 weight
    ++ BigEndian.encode 2 (if negative then negativeMark else 0) ++ BigEndian.encode 2 scale
    ++ groups.flatMap (BigEndian.encode 2)

/-- The octets of a decimal. -/
def encode (d : Decimal) : List UInt8 :=
  if d.isZero then layout 0 false 0 []
  else
    let (weight, groups) := parts d
    layout weight d.negative d.scale groups

/-- An unsigned number `coefficient / 10 ^ scale` while it is put together. -/
structure Sum where
  coefficient : Nat
  scale : Nat

/-- A coefficient that is too long, rounded to the fewest places fewer with which
it fits, a half going to the even neighbour. -/
def Sum.fit (s : Sum) : Option Sum :=
  let shortened (places : Nat) : Sum :=
    ⟨roundDiv .toEven s.coefficient (10 ^ places), s.scale - places⟩
  ((List.range (s.scale + 1)).map shortened).find? fun t => t.coefficient < Decimal.limit

/-- A sum with `n / 10 ^ scale` added. -/
def Sum.add (s : Sum) (n scale : Nat) : Option Sum :=
  let common := max s.scale scale
  Sum.fit ⟨s.coefficient * 10 ^ (common - s.scale) + n * 10 ^ (common - scale), common⟩

/-- The groups before the point, while they fit. -/
def wholePart : Nat → List Nat → Option Nat
  | n, [] => some n
  | n, group :: rest =>
    let next := n * 10000 + group
    if next < Decimal.limit then wholePart next rest else none

/-- The groups after the point added to a sum, where the first ends at place
`place + 4`. Of a group past the last place only the first digit counts, and it
rounds. -/
def addFraction (s : Sum) (place : Nat) : List Nat → Option Sum
  | [] => some s
  | group :: rest => do
    let place := place + 4
    let s ←
      if place ≤ Decimal.maxScale then s.add group place
      else if place = Decimal.maxScale + 4 && 5000 ≤ group then s.add 1 Decimal.maxScale
      else some s
    addFraction s place rest

/-- A sum with another number of places, as far as its digits fit. Places that are
dropped round, a half going up. -/
def Sum.rescale (s : Sum) (scale : Nat) : Sum :=
  let scale := min scale Decimal.maxScale
  if s.coefficient = 0 then ⟨0, scale⟩
  else if scale ≤ s.scale then
    ⟨roundDiv .awayFromZero s.coefficient (10 ^ (s.scale - scale)), scale⟩
  else
    let widened (places : Nat) : Sum := ⟨s.coefficient * 10 ^ places, s.scale + places⟩
    let fitting := ((List.range (scale - s.scale + 1)).map widened).takeWhile fun t =>
      t.coefficient < Decimal.limit
    fitting.getLast?.getD s

/-- The decimal of a weight, a sign, a scale and groups. -/
def ofParts? (weight : Int) (negative : Bool) (scale : Nat) (groups : List Nat) :
    Option Decimal := do
  let wholeGroups := (weight + 1).toNat
  let whole ← wholePart 0 (groups.take wholeGroups)
  let missing := wholeGroups - groups.length
  let padded ← if missing ≤ 7 then some (whole * 10 ^ (4 * missing)) else none
  let skipped := (-weight - 1).toNat
  let sum ← if padded < Decimal.limit then
      addFraction ⟨padded, 0⟩ (4 * skipped) (groups.drop wholeGroups)
    else none
  let s := sum.rescale scale
  Decimal.ofParts? negative s.coefficient s.scale

/-- So many groups in front. -/
def takeGroups : Nat → List UInt8 → Option (List Nat)
  | 0, _ => some []
  | count + 1, octets => do
    let (group, rest) ← BigEndian.nat? 2 octets
    let groups ← takeGroups count rest
    some (group :: groups)

/-- Whether a sign is that of a negative number. What is no finite number has a sign
of its own and is refused, as is every sign that is not known. -/
def isNegative? (sign : Nat) : Option Bool :=
  if sign = 0 then some false else if sign = negativeMark then some true else none

/-- The decimal that octets spell. What follows the last group is not looked at. -/
def decode? (octets : List UInt8) : Option Decimal := do
  let (count, octets) ← BigEndian.nat? 2 octets
  let (weight, octets) ← BigEndian.int? 2 octets
  let (sign, octets) ← BigEndian.nat? 2 octets
  let (scale, octets) ← BigEndian.nat? 2 octets
  let negative ← isNegative? sign
  let groups ← takeGroups count octets
  ofParts? weight negative scale groups

end SqlBind.Postgres.Numeric
