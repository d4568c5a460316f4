/-
Points in time as a date and a time of day. The same type holds local times,
which know no zone, and instants, which are kept in UTC.
-/
import SqlBind.Calendar.Date
import SqlBind.Calendar.Time

namespace SqlBind

/-- A date and a time of that day. -/
structure Timestamp where
  date : Date
  time : TimeOfDay
  deriving DecidableEq

namespace Timestamp

/-- Midnight at the start of a date. -/
def ofDate (d : Date) : Timestamp := ⟨d, .midnight⟩

/-- The point `nanos` nanoseconds after the midnight that starts day number `day`. -/
def ofDayNanos? (day nanos : Int) : Option Timestamp := do
  let date ← Date.ofDay? (day + nanos / 86400000000000)
  let inDay := (nanos % 86400000000000).toNat
  let time ← TimeOfDay.ofParts? (inDay / 1000000000) (inDay % 1000000000)
  some ⟨date, time⟩

/-- The point a number of milliseconds after the start of 1970. -/
def ofMillis? (millis : Int) : Option Timestamp := ofDayNanos? 0 (millis * 1000000)

/-- The point a number of microseconds after the start of 2000. -/
def ofMicros2000? (micros : Int) : Option Timestamp :=
  ofDayNanos? Date.year2000 (micros * 1000)

/-- Microseconds since the start of 2000, the rest cut off toward it. -/
def micros2000 (t : Timestamp) : Int :=
  (((t.date.day - Date.year2000) * 86400 + t.time.second) * 1000000000 + t.time.nano).tdiv 1000

/-- The point so many minutes earlier. Seconds and nanoseconds stay, and with
them a leap second. -/
def subMinutes? (t : Timestamp) (minutes : Int) : Option Timestamp := do
  let second : Int := t.time.second - minutes * 60
  let date ← Date.ofDay? (t.date.day + second / 86400)
  let time ← TimeOfDay.ofParts? (second % 86400).toNat t.time.nano
  some ⟨date, time⟩

end Timestamp
end SqlBind
