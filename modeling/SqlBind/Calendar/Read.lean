/-
Text read as dates and times. Two grammars are known. The free one takes fields
of fewer digits, blanks before every field and a year with a sign; the strict
one is that of instants: fields of fixed width and an offset from UTC. Either
must take the whole text.
-/
import SqlBind.Calendar.Timestamp
import SqlBind.Number.Numeral
import SqlBind.Text.Blank

namespace SqlBind.Calendar

/-- At least one and at most `width` digits, and what follows. -/
def digits? (width : Nat) (cs : List Char) : Option (Nat × List Char) :=
  let ds := (cs.take width).takeWhile Numeral.isDigit
  if ds.isEmpty then none else some (Numeral.value ds, cs.drop ds.length)

/-- Exactly `width` digits, and what follows. -/
def fixed? (width : Nat) (cs : List Char) : Option (Nat × List Char) :=
  let ds := cs.take width
  if ds.length = width ∧ ds.all Numeral.isDigit then some (Numeral.value ds, cs.drop width)
  else none

/-- One given character, and what follows. -/
def mark? (c : Char) : List Char → Option (List Char)
  | [] => none
  | d :: rest => if c = d then some rest else none

/-- A field of the free grammar: blanks, then one or two digits. -/
def field? (cs : List Char) : Option (Nat × List Char) := digits? 2 (Text.trimStart cs)

/-- A year of the free grammar: up to four digits, or a sign and any number of them. -/
def year? (cs : List Char) : Option (Int × List Char) :=
  match Text.trimStart cs with
  | '-' :: rest => (digits? rest.length rest).map fun (n, r) => (-(n : Int), r)
  | '+' :: rest => (digits? rest.length rest).map fun (n, r) => ((n : Int), r)
  | cs => (digits? 4 cs).map fun (n, r) => ((n : Int), r)

/-- The first nine of a row of digits as nanoseconds, and what follows the row. -/
def nanos? (cs : List Char) : Option (Nat × List Char) :=
  let (ds, rest) := Numeral.span cs
  let kept := ds.take 9
  if ds.isEmpty then none else some (Numeral.value kept * 10 ^ (9 - kept.length), rest)

/-- A fraction, or none if there is no point. -/
def fraction? : List Char → Option (Nat × List Char)
  | '.' :: rest => nanos? rest
  | cs => some (0, cs)

/-- A date of the free grammar, and what follows. -/
def date? (cs : List Char) : Option (Date × List Char) := do
  let (year, cs) ← year? cs
  let cs ← mark? '-' cs
  let (month, cs) ← field? cs
  let cs ← mark? '-' cs
  let (day, cs) ← field? cs
  let date ← Date.ofCivil? ⟨year, month, day⟩
  some (date, cs)

/-- A time of the free grammar, and what follows. -/
def time? (cs : List Char) : Option (TimeOfDay × List Char) := do
  let (hour, cs) ← field? cs
  let cs ← mark? ':' cs
  let (minute, cs) ← field? cs
  let cs ← mark? ':' cs
  let (second, cs) ← field? cs
  let (nano, cs) ← fraction? cs
  let time ← TimeOfDay.ofClock? hour minute second nano
  some (time, cs)

/-- What was read, if nothing follows. -/
def complete? {α : Type} : Option (α × List Char) → Option α
  | some (a, []) => some a
  | _ => none

/-- Minutes east of UTC: `Z`, or a sign, hours and minutes with a colon. -/
def offset? : List Char → Option (Int × List Char)
  | [] => none
  | c :: rest =>
    if c = 'Z' || c = 'z' then some (0, rest)
    else do
      let east : Int ← if c = '+' then some 1 else if c = '-' || c = '−' then some (-1) else none
      let (hours, rest) ← fixed? 2 rest
      let rest ← mark? ':' rest
      let (minutes, rest) ← fixed? 2 rest
      if hours < 24 ∧ minutes < 60 then some (east * (hours * 60 + minutes : Nat), rest) else none

/-- The mark between the date and the time of an instant. -/
def separator? : List Char → Option (List Char)
  | [] => none
  | c :: rest => if c = 'T' || c = 't' || c = ' ' then some rest else none

/-- An instant of the strict grammar, in UTC, and what follows. -/
def instant? (cs : List Char) : Option (Timestamp × List Char) := do
  let (year, cs) ← fixed? 4 cs
  let cs ← mark? '-' cs
  let (month, cs) ← fixed? 2 cs
  let cs ← mark? '-' cs
  let (day, cs) ← fixed? 2 cs
  let cs ← separator? cs
  let (hour, cs) ← fixed? 2 cs
  let cs ← mark? ':' cs
  let (minute, cs) ← fixed? 2 cs
  let cs ← mark? ':' cs
  let (second, cs) ← fixed? 2 cs
  let (nano, cs) ← fraction? cs
  let (offset, cs) ← offset? cs
  let date ← Date.ofCivil? ⟨year, month, day⟩
  let time ← TimeOfDay.ofClock? hour minute second nano
  let instant ← Timestamp.subMinutes? ⟨date, time⟩ offset
  some (instant, cs)

end SqlBind.Calendar

namespace SqlBind

/-- A date of the free grammar. -/
def Date.ofText? (cs : List Char) : Option Date := Calendar.complete? (Calendar.date? cs)

/-- A time of the free grammar. -/
def TimeOfDay.ofText? (cs : List Char) : Option TimeOfDay :=
  Calendar.complete? (Calendar.time? cs)

/-- A date and a time of the free grammar, with blanks or nothing between them. -/
def Timestamp.ofSpaced? (cs : List Char) : Option Timestamp := do
  let (date, cs) ← Calendar.date? cs
  let time ← TimeOfDay.ofText? (Text.trimStart cs)
  some ⟨date, time⟩

/-- A date and a time of the free grammar, with a `T` between them. -/
def Timestamp.ofMarked? (cs : List Char) : Option Timestamp := do
  let (date, cs) ← Calendar.date? cs
  let cs ← Calendar.mark? 'T' cs
  let time ← TimeOfDay.ofText? cs
  some ⟨date, time⟩

/-- An instant of the strict grammar, in UTC. -/
def Timestamp.ofInstant? (cs : List Char) : Option Timestamp :=
  Calendar.complete? (Calendar.instant? cs)

end SqlBind
