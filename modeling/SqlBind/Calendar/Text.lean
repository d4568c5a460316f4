/-
Dates and times as text. A year from 0 to 9999 has four digits, any other a sign
and at least four. A fraction of a second is written with as few groups of three
digits as show it all.
-/
import SqlBind.Calendar.Timestamp
import SqlBind.Number.Numeral

namespace SqlBind

namespace CivilDay

/-- A year with the sign it needs. -/
def yearText (year : Int) : List Char :=
  if 0 ≤ year ∧ year ≤ 9999 then Numeral.padded 4 year.toNat
  else (if year < 0 then '-' else '+') :: Numeral.padded 4 year.natAbs

/-- Year, month and day with hyphens between them. -/
def text (c : CivilDay) : List Char :=
  yearText c.year ++ '-' :: Numeral.padded 2 c.month.toNat
    ++ '-' :: Numeral.padded 2 c.day.toNat

end CivilDay

/-- A date as `year-month-day`. -/
def Date.text (d : Date) : List Char := d.civil.text

namespace TimeOfDay

/-- Hour, minute and second with colons between them. -/
def clockText (t : TimeOfDay) : List Char :=
  Numeral.padded 2 t.hour ++ ':' :: Numeral.padded 2 t.minute
    ++ ':' :: Numeral.padded 2 t.clockSecond

/-- A point and all nine digits of the fraction. -/
def nineDigits (t : TimeOfDay) : List Char := '.' :: Numeral.padded 9 t.fraction

/-- The fraction in three, six or nine digits, or nothing if there is none. -/
def fractionText (t : TimeOfDay) : List Char :=
  let n := t.fraction
  if n = 0 then []
  else if n % 1000000 = 0 then '.' :: Numeral.padded 3 (n / 1000000)
  else if n % 1000 = 0 then '.' :: Numeral.padded 6 (n / 1000)
  else '.' :: Numeral.padded 9 n

/-- A time as `hour:minute:second` and its fraction. -/
def text (t : TimeOfDay) : List Char := t.clockText ++ t.fractionText

end TimeOfDay

namespace Timestamp

/-- The date and the clock, without the fraction. -/
def wholeText (t : Timestamp) : List Char := t.date.text ++ ' ' :: t.time.clockText

/-- The date and the time with its fraction. -/
def text (t : Timestamp) : List Char := t.date.text ++ ' ' :: t.time.text

/-- An instant with the offset of UTC. -/
def instantText (t : Timestamp) : List Char :=
  t.date.text ++ 'T' :: t.time.text ++ "+00:00".toList

end Timestamp
end SqlBind
