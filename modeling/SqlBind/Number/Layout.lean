/-
How a double is written. The digits are the fewest that read back; a layout
says which exponents are written positionally and what a whole number looks
like. The library writes two layouts: `plain` for text and `json` for documents.
-/
import SqlBind.Number.Numeral
import SqlBind.Number.Shortest

namespace SqlBind

/-- The decisions of one written form of doubles. -/
structure DoubleLayout where
  /-- The exponents of the leading digit that are written without an exponent
  mark; all of them if absent. -/
  positional : Option (Int × Int)
  /-- What follows a whole number written positionally. -/
  wholeSuffix : List Char
  /-- Which of two equally near digit strings is written. -/
  tie : Tie

namespace DoubleLayout

/-- Text never has an exponent, and a whole number no point. -/
def plain : DoubleLayout := ⟨none, [], .awayFromZero⟩

/-- Documents are positional from `0.00001` up to sixteen digits before the
point, and a float always shows that it is one. -/
def json : DoubleLayout := ⟨some (-5, 15), ".0".toList, .toEven⟩

/-- Digits with the point after the leading digit's place value is accounted for. -/
def positionalText (layout : DoubleLayout) (digits : List Char) (exponent : Int) : List Char :=
  if exponent < 0 then
    "0.".toList ++ List.replicate (-exponent - 1).toNat '0' ++ digits
  else
    let whole := exponent.toNat + 1
    let head := digits.take whole ++ List.replicate (whole - digits.length) '0'
    match digits.drop whole with
    | [] => head ++ layout.wholeSuffix
    | rest => head ++ '.' :: rest

/-- One digit before the point, then the exponent with its sign. -/
def scientificText (digits : List Char) (exponent : Int) : List Char :=
  let mantissa := match digits with
    | [] => []
    | [d] => [d]
    | d :: rest => d :: '.' :: rest
  mantissa ++ ['e', if exponent < 0 then '-' else '+'] ++ Numeral.ofNat exponent.natAbs

/-- A positive finite magnitude. -/
def magnitudeText (layout : DoubleLayout) (magnitude : Nat) : List Char :=
  let d := Shortest.ofMagnitude layout.tie .binary64 magnitude
  let digits := Numeral.ofNat d.significand
  let exponent := d.exponent + (digits.length - 1 : Nat)
  match layout.positional with
  | none => layout.positionalText digits exponent
  | some (least, greatest) =>
    if least ≤ exponent ∧ exponent ≤ greatest then layout.positionalText digits exponent
    else scientificText digits exponent

/-- A double in this layout: a NaN is `NaN` without a sign, an infinity `inf`,
and a zero keeps its sign. -/
def text (layout : DoubleLayout) (x : Double) : List Char :=
  let sign := if x.isNegative then ['-'] else []
  if x.isNaN then "NaN".toList
  else if x.isInfinite then sign ++ "inf".toList
  else if x.isZero then sign ++ '0' :: layout.wholeSuffix
  else sign ++ layout.magnitudeText x.magnitude

end DoubleLayout

/-- A double as text. -/
def Double.toText (x : Double) : String := .ofList (DoubleLayout.plain.text x)

end SqlBind
