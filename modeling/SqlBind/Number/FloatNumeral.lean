/-
Numerals of floating-point numbers in text: an optional sign, then `inf`,
`infinity` or `nan` in any case, or digits with an optional point and an
optional exponent. At least one digit stands before or after the point; there
are no separators and no other bases. The nearest number of the format is read,
and what lies beyond its greatest number is infinite.
-/
import SqlBind.Number.Numeral
import SqlBind.Number.Double

namespace SqlBind.FloatNumeral

/-- The whole number after an exponent mark: an optional sign and digits. -/
def exponent? (cs : List Char) : Option Int :=
  match cs with
  | '-' :: ds => (Numeral.read? ds).map fun n => -(n : Int)
  | '+' :: ds => (Numeral.read? ds).map Int.ofNat
  | ds => (Numeral.read? ds).map Int.ofNat

/-- Digits, a point, digits, an exponent: the significand and its exponent. -/
def decimal? (cs : List Char) : Option (Nat × Int) :=
  let (whole, rest) := Numeral.span cs
  let (fraction, rest) := match rest with
    | '.' :: r => Numeral.span r
    | r => ([], r)
  if whole.isEmpty && fraction.isEmpty then none
  else
    let significand := Numeral.value (whole ++ fraction)
    let places : Int := fraction.length
    match rest with
    | [] => some (significand, -places)
    | c :: r => if c = 'e' || c = 'E' then (exponent? r).map fun e => (significand, e - places) else none

/-- The magnitude bits of an unsigned numeral. -/
def magnitude? (f : BinaryFormat) (cs : List Char) : Option Nat :=
  let word := String.ofList (cs.map Char.toLower)
  if word = "inf" || word = "infinity" then some f.infinity
  else if word = "nan" then some (f.infinity + f.quietBit)
  else (decimal? cs).map fun (significand, e) => f.ofScientific significand e

/-- The sign and the magnitude bits of a numeral. -/
def read? (f : BinaryFormat) (cs : List Char) : Option (Bool × Nat) :=
  match cs with
  | '-' :: r => (magnitude? f r).map (true, ·)
  | '+' :: r => (magnitude? f r).map (false, ·)
  | r => (magnitude? f r).map (false, ·)

end SqlBind.FloatNumeral

namespace SqlBind

/-- The double that a text denotes. -/
def Double.ofText? (s : String) : Option Double :=
  (FloatNumeral.read? .binary64 s.toList).map fun (negative, magnitude) =>
    ofMagnitude negative magnitude

/-- The single-precision number that a text denotes, as a double. -/
def Double.ofSingleText? (s : String) : Option Double :=
  (FloatNumeral.read? .binary32 s.toList).map fun (negative, magnitude) =>
    ofMagnitude negative (BinaryFormat.binary32.convert .binary64 magnitude)

end SqlBind
