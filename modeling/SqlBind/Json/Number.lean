/-
Numerals of documents. A whole numeral that fits sixty-four bits, with or without
sign, is an integer, but `-0` is a float. Every other numeral is a float: as many
digits as fit an unsigned word of sixty-four bits make its significand, and one
product or quotient with a power of ten, each nearest to its true value, makes
the number. So the last bit may differ from the nearest number's.
-/
import SqlBind.Json.Basic
import SqlBind.Number.Numeral

namespace SqlBind.Json

/-- The least number that no unsigned word of sixty-four bits holds. -/
def wordLimit : Nat := 2 ^ 64

/-- Digits appended to a significand while the result fits a word, and the
digits left over. -/
def absorb (significand : Nat) : List Char → Nat × List Char
  | [] => (significand, [])
  | c :: rest =>
    let more := significand * 10 + Numeral.digitValue c
    if more < wordLimit then absorb more rest else (significand, c :: rest)

/-- The double nearest to a power of ten. -/
def tenTo (exponent : Nat) : Double := Double.ofRatio false (10 ^ exponent) 1

/-- A magnitude divided by a power of ten, in steps no longer than the greatest
power that is finite. -/
def divTenTo (x : Double) (exponent : Nat) : Double :=
  if exponent ≤ 308 then x.divMagnitude (tenTo exponent)
  else if x.isZero then x
  else divTenTo (x.divMagnitude (tenTo 308)) (exponent - 308)
termination_by exponent

/-- A significand times a power of ten, unless that is beyond all doubles. -/
def scale? (significand : Nat) (exponent : Int) : Option Double :=
  let x := Double.ofRatio false significand 1
  if exponent < 0 then some (divTenTo x exponent.natAbs)
  else if 308 < exponent then if significand = 0 then some x else none
  else
    let y := x.mulMagnitude (tenTo exponent.toNat)
    if y.isInfinite then none else some y

/-- A float numeral's value with its sign. -/
def float? (negative : Bool) (significand : Nat) (exponent : Int) : Option Json :=
  (scale? significand exponent).map fun x => .float (if negative then x.neg else x)

/-- What an exponent mark, an optional sign and digits denote. -/
def exponentPart? (cs : List Char) : Option Int :=
  match cs with
  | [] => some 0
  | mark :: r =>
    if mark = 'e' || mark = 'E' then
      match r with
      | '-' :: ds => (Numeral.read? ds).map fun n => -(n : Int)
      | '+' :: ds => (Numeral.read? ds).map Int.ofNat
      | ds => (Numeral.read? ds).map Int.ofNat
    else none

/-- A numeral without its sign. -/
def unsignedNumber? (negative : Bool) (cs : List Char) : Option Json :=
  let (whole, rest) := Numeral.span cs
  if whole.isEmpty || (whole.head? == some '0' && 1 < whole.length) then none
  else
    let (significand, unread) := absorb 0 whole
    match rest with
    | [] =>
      if unread.isEmpty then
        if !negative then some (.int significand)
        else if significand = 0 || 2 ^ 63 < significand then float? true significand 0
        else some (.int (-significand))
      else float? negative significand unread.length
    | '.' :: r =>
      let (places, r) := Numeral.span r
      if places.isEmpty then none
      else
        let (significand, extra) := absorb significand places
        (exponentPart? r).bind fun e =>
          float? negative significand
            (e + (unread.length : Int) - ((places.length - extra.length : Nat) : Int))
    | r => (exponentPart? r).bind fun e => float? negative significand (e + unread.length)

/-- The number that a numeral denotes. -/
def number? : List Char → Option Json
  | '-' :: cs => unsignedNumber? true cs
  | cs => unsignedNumber? false cs

end SqlBind.Json
