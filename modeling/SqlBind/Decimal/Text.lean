/-
Decimal numerals in text. A plain numeral has an optional sign, digits and at
most one point; an underscore may stand anywhere after the first digit. Places
past the twenty-eighth, and places with which the coefficient no longer fits, are
rounded off at the first of them, a half going up. A numeral that is not plain may
be scientific: a plain numeral, `e` or `E`, and an exponent.
-/
import SqlBind.Decimal.Basic
import SqlBind.Number.Rounding

namespace SqlBind.Decimal

/-- The digits read so far: their value and how many stand after the point. -/
structure Digits where
  coefficient : Nat
  scale : Nat

/-- Whether a character may stand among the places that are rounded off. -/
def isFiller (c : Char) : Bool := Numeral.isDigit c || c = '_'

/-- One unit of the last place more; a carry out of the ninety-six bits gives up
one place. -/
def Digits.increment (d : Digits) : Option Digits :=
  if d.coefficient + 1 < limit then some ⟨d.coefficient + 1, d.scale⟩
  else if d.scale = 0 then none
  else some ⟨(d.coefficient + 5) / 10, d.scale - 1⟩

/-- Digits without the characters after them, the first of which decides the
rounding; an underscore there counts as zero. -/
def Digits.roundOff (d : Digits) (rest : List Char) : Option Digits :=
  if rest.all isFiller then
    match rest with
    | [] => some d
    | next :: _ =>
      if Numeral.isDigit next && 5 ≤ Numeral.digitValue next then d.increment else some d
  else none

/-- A numeral of which this much was read before its last place is longer than
sixty-four bits; underscores after that place are then passed over. -/
def longFrom : Nat := 1844674407370954906

/-- The rest of a plain numeral, where `point` says whether the point was read
and `started` whether a digit was. -/
def digits? (point started : Bool) (d : Digits) : List Char → Option Digits
  | [] => if started then some d else none
  | c :: rest =>
    if Numeral.isDigit c then
      let coefficient := d.coefficient * 10 + Numeral.digitValue c
      let scale := if point then d.scale + 1 else d.scale
      if limit ≤ coefficient then
        if point then d.roundOff (c :: rest) else none
      else if point && maxScale ≤ scale then
        Digits.roundOff ⟨coefficient, scale⟩
          (if longFrom ≤ d.coefficient then rest.dropWhile (· = '_') else rest)
      else digits? point true ⟨coefficient, scale⟩ rest
    else if c = '.' && !point then digits? true started d rest
    else if c = '_' && started then digits? point started d rest
    else none

/-- A numeral without an exponent. -/
def ofPlain? (cs : List Char) : Option Decimal :=
  let (negative, unsigned) := match cs with
    | '-' :: r => (true, r)
    | '+' :: r => (false, r)
    | r => (false, r)
  (digits? false false ⟨0, 0⟩ unsigned).bind fun d => ofUnsignedZero? negative d.coefficient d.scale

/-- An unsigned exponent below `2 ^ 32`; a plus sign may precede it. -/
def exponent? (cs : List Char) : Option Nat :=
  let digits := match cs with
    | '+' :: r => r
    | r => r
  (Numeral.read? digits).filter (· < 2 ^ 32)

/-- The decimal times a power of ten. One that still has places left moves the
point; otherwise the coefficient grows and no places are left. -/
def scaleUp? (d : Decimal) (exponent : Nat) : Option Decimal :=
  if exponent ≤ d.scale then ofParts? d.negative d.coefficient (d.scale - exponent)
  else if maxScale < exponent then none
  else ofParts? d.negative (d.coefficient * 10 ^ (exponent - d.scale)) 0

/-- The decimal divided by a power of ten: the same coefficient and more places,
of which those past the twenty-eighth are rounded off, a half going up. -/
def scaleDown? (d : Decimal) (exponent : Nat) : Option Decimal :=
  let scale := d.scale + exponent
  if maxScale < exponent then none
  else if scale ≤ maxScale then ofParts? d.negative d.coefficient scale
  else
    ofParts? d.negative (roundDiv .awayFromZero d.coefficient (10 ^ (scale - maxScale))) maxScale

/-- A plain numeral and an exponent after the first `e` or `E`. -/
def ofScientific? (cs : List Char) : Option Decimal :=
  let isMark (c : Char) : Bool := c = 'e' || c = 'E'
  match cs.dropWhile (!isMark ·) with
  | [] => none
  | _ :: exponent =>
    (ofPlain? (cs.takeWhile (!isMark ·))).bind fun d =>
      match exponent with
      | '-' :: e => (exponent? e).bind d.scaleDown?
      | e => (exponent? e).bind d.scaleUp?

/-- The decimal that a text denotes. -/
def ofText? (s : String) : Option Decimal :=
  (ofPlain? s.toList).or (ofScientific? s.toList)

end SqlBind.Decimal
