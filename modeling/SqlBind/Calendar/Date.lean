/-
Days of the proleptic Gregorian calendar. A date is the number of its day,
counted from 1970-01-01, within the years that the calendar covers; year, month
and day of the month are computed from it and back. Years are counted from
March, so that the leap day is the last day of its year and a day's number is a
sum of whole cycles.
-/
namespace SqlBind

/-- A day, by its number from 1970-01-01. -/
structure Date where
  day : Int
  first_le : -96465292 ≤ day
  le_last : day ≤ 95026236
  deriving DecidableEq

/-- A day by its place in the calendar. -/
structure CivilDay where
  year : Int
  month : Int
  day : Int
  deriving DecidableEq, Repr

namespace CivilDay

def isLeapYear (year : Int) : Bool :=
  year % 4 == 0 && (year % 100 != 0 || year % 400 == 0)

/-- The number of days of a month from 1 to 12. -/
def daysInMonth (year month : Int) : Int :=
  if month = 2 then (if isLeapYear year then 29 else 28)
  else if month = 4 ∨ month = 6 ∨ month = 9 ∨ month = 11 then 30
  else 31

/-- Whether the calendar has the day. -/
def isValid (c : CivilDay) : Bool :=
  1 ≤ c.month && c.month ≤ 12 && 1 ≤ c.day && c.day ≤ daysInMonth c.year c.month

/-- The day's number from 1970-01-01. -/
def toNumber (c : CivilDay) : Int :=
  let year := if c.month ≤ 2 then c.year - 1 else c.year
  let month := (c.month + 9) % 12
  let yearOfCycle := year % 400
  let dayOfYear := (153 * month + 2) / 5 + c.day - 1
  let dayOfCycle := yearOfCycle * 365 + yearOfCycle / 4 - yearOfCycle / 100 + dayOfYear
  year / 400 * 146097 + dayOfCycle - 719468

/-- The day of a number. -/
def ofNumber (n : Int) : CivilDay :=
  let shifted := n + 719468
  let dayOfCycle := shifted % 146097
  let yearOfCycle :=
    (dayOfCycle - dayOfCycle / 1460 + dayOfCycle / 36524 - dayOfCycle / 146096) / 365
  let dayOfYear := dayOfCycle - (365 * yearOfCycle + yearOfCycle / 4 - yearOfCycle / 100)
  let month := (5 * dayOfYear + 2) / 153
  let year := shifted / 146097 * 400 + yearOfCycle
  { year := if month < 10 then year else year + 1
    month := if month < 10 then month + 3 else month - 9
    day := dayOfYear - (153 * month + 2) / 5 + 1 }

end CivilDay

namespace Date

/-- The day of a number, if the calendar reaches it. -/
def ofDay? (n : Int) : Option Date :=
  if h : -96465292 ≤ n ∧ n ≤ 95026236 then some ⟨n, h.1, h.2⟩ else none

/-- The day of a year, a month and a day of the month. -/
def ofCivil? (c : CivilDay) : Option Date :=
  if c.isValid then ofDay? c.toNumber else none

/-- The day's place in the calendar. -/
def civil (d : Date) : CivilDay := .ofNumber d.day

/-- The first day of the year 2000, from which the wire counts. -/
def year2000 : Int := 10957

theorem ofDay?_day (d : Date) : ofDay? d.day = some d := by
  simp [ofDay?, d.first_le, d.le_last]

end Date
end SqlBind
