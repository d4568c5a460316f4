/-
Times of day to the nanosecond. A leap second is counted to the second before
it: its fraction runs from one whole second on, and only the last second of a
minute has one.
-/
namespace SqlBind

/-- A time of day: whole seconds since midnight and the nanoseconds after them. -/
structure TimeOfDay where
  second : Nat
  nano : Nat
  second_lt : second < 86400
  nano_lt : nano < 2000000000
  leap_last : 1000000000 ≤ nano → second % 60 = 59
  deriving DecidableEq

namespace TimeOfDay

/-- The start of the day. -/
def midnight : TimeOfDay := ⟨0, 0, by omega, by omega, by omega⟩

/-- A time from seconds and nanoseconds within their bounds. -/
def ofParts? (second nano : Nat) : Option TimeOfDay :=
  if h : second < 86400 ∧ nano < 2000000000 ∧ (1000000000 ≤ nano → second % 60 = 59) then
    some ⟨second, nano, h.1, h.2.1, h.2.2⟩
  else none

/-- A time from the fields of a clock, where second 60 is a leap second. -/
def ofClock? (hour minute second nano : Nat) : Option TimeOfDay :=
  if hour < 24 ∧ minute < 60 ∧ second ≤ 60 ∧ nano < 1000000000 then
    if second = 60 then ofParts? (hour * 3600 + minute * 60 + 59) (nano + 1000000000)
    else ofParts? (hour * 3600 + minute * 60 + second) nano
  else none

def hour (t : TimeOfDay) : Nat := t.second / 3600

def minute (t : TimeOfDay) : Nat := t.second / 60 % 60

/-- The second a clock shows, 60 during a leap second. -/
def clockSecond (t : TimeOfDay) : Nat :=
  t.second % 60 + (if 1000000000 ≤ t.nano then 1 else 0)

/-- The nanoseconds after the second that a clock shows. -/
def fraction (t : TimeOfDay) : Nat := t.nano % 1000000000

/-- Nanoseconds since midnight, those of a leap second included. -/
def toNanos (t : TimeOfDay) : Nat := t.second * 1000000000 + t.nano

theorem ofParts?_self (t : TimeOfDay) : ofParts? t.second t.nano = some t := by
  unfold ofParts?
  rw [dif_pos ⟨t.second_lt, t.nano_lt, t.leap_last⟩]

end TimeOfDay
end SqlBind
