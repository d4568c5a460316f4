/-
Dates and times are read as they are written. Each field takes just its own digits,
whatever follows; so the free grammar reads the text of a date, a time or a
timestamp to its end, and the strict one that of an instant in the years of four
digits. A text of one kind is no text of the kinds that are tried before it.
-/
import SqlBind.Calendar.Read
import SqlBind.Calendar.Text
import SqlBind.Proofs.Calendar.Civil
import SqlBind.Proofs.Number.Digits

namespace SqlBind.Calendar

open Numeral

/-! ## Fields -/

/-- What is read is handed on. In this form, rather than by `Option.bind`, long rows of
fields are simplified one field after the other. -/
theorem some_bind {α β : Type} (a : α) (f : α → Option β) : (some a >>= f) = f a := rfl

variable {width n : Nat}

theorem fixed?_padded (positive : 0 < width) (h : n < 10 ^ width) (rest : List Char) :
    fixed? width (padded width n ++ rest) = some (n, rest) := by
  simp only [fixed?, take_padded positive h, drop_padded positive h, length_padded positive h,
    all_isDigit_padded, value_padded, and_self, if_true]

/-- All digits of a row are taken if there is no room for more or nothing but another character
behind them. -/
theorem digits?_append {ds rest : List Char} (digits : ds.all isDigit = true)
    (present : ds ≠ []) (fits : ds.length ≤ width)
    (stops : ds.length = width ∨ ∀ c ∈ rest.head?, isDigit c = false) :
    digits? width (ds ++ rest) = some (value ds, rest) := by
  have none : (rest.take (width - ds.length)).takeWhile isDigit = [] := by
    rcases stops with full | stops
    · rw [full, Nat.sub_self, List.take_zero, List.takeWhile_nil]
    · cases rest with
      | nil => rw [List.take_nil, List.takeWhile_nil]
      | cons c rest =>
        cases width - ds.length with
        | zero => rfl
        | succ room =>
          rw [List.take_succ_cons, List.takeWhile_cons, stops c rfl]
          rfl
  have kept : ((ds ++ rest).take width).takeWhile isDigit = ds := by
    rw [List.take_append, List.take_of_length_le fits, takeWhile_isDigit digits, none,
      List.append_nil]
  rw [digits?, kept, List.drop_left, if_neg (by simpa using present)]

theorem digits?_padded (positive : 0 < width) (h : n < 10 ^ width) (rest : List Char) :
    digits? width (padded width n ++ rest) = some (n, rest) := by
  have long := length_padded positive h
  rw [digits?_append (all_isDigit_padded width n) (padded_ne_nil positive n) (Nat.le_of_eq long)
    (.inl long), value_padded]

theorem trimStart_padded (positive : 0 < width) (n : Nat) (rest : List Char) :
    Text.trimStart (padded width n ++ rest) = padded width n ++ rest :=
  Text.trimStart_eq_self fun _ mem => isBlank_of_isDigit (isDigit_of_padded positive mem)

theorem field?_padded (h : n < 100) (rest : List Char) :
    field? (padded 2 n ++ rest) = some (n, rest) := by
  rw [field?, trimStart_padded (by decide)]
  exact digits?_padded (by decide) h rest

theorem mark?_self (c : Char) (rest : List Char) : mark? c (c :: rest) = some rest := by
  rw [mark?, if_pos rfl]

/-! ## Dates -/

theorem year?_yearText (year : Int) (rest : List Char) :
    year? (CivilDay.yearText year ++ '-' :: rest) = some (year, '-' :: rest) := by
  have signed (n : Nat) : digits? (padded 4 n ++ '-' :: rest).length
      (padded 4 n ++ '-' :: rest) = some (n, '-' :: rest) := by
    rw [digits?_append (all_isDigit_padded 4 n) (padded_ne_nil (by decide) n) (by simp)
      (.inr fun c mem => by cases mem; rfl), value_padded]
  unfold CivilDay.yearText
  split
  · next plain =>
    have start := @isDigit_of_padded 4 year.toNat (by decide) ('-' :: rest)
    rw [year?, trimStart_padded (by decide)]
    split
    · next shown =>
      rw [shown] at start
      exact absurd (start rfl) (by decide)
    · next shown =>
      rw [shown] at start
      exact absurd (start rfl) (by decide)
    · rw [digits?_padded (by decide) (by omega)]
      simp only [Option.map_some, Int.toNat_of_nonneg plain.1]
  · next other =>
    by_cases negative : year < 0
    · rw [if_pos negative, year?, Text.trimStart_eq_self (fun c mem => by cases mem; rfl)]
      simp only [List.cons_append, signed, Option.map_some]
      rw [Int.ofNat_natAbs_of_nonpos (by omega), Int.neg_neg]
    · rw [if_neg negative, year?, Text.trimStart_eq_self (fun c mem => by cases mem; rfl)]
      simp only [List.cons_append, signed, Option.map_some]
      rw [Int.natAbs_of_nonneg (by omega)]

theorem text_append (d : Date) (rest : List Char) : d.text ++ rest = CivilDay.yearText d.civil.year ++
    '-' :: (padded 2 d.civil.month.toNat ++
      '-' :: (padded 2 d.civil.day.toNat ++ rest)) := by
  simp only [Date.text, CivilDay.text, List.append_assoc, List.cons_append]

theorem ofCivil?_fields (d : Date) :
    Date.ofCivil? ⟨d.civil.year, (d.civil.month.toNat : Int), (d.civil.day.toNat : Int)⟩ = some d := by
  obtain ⟨month, -, day, -⟩ := d.civil_bounds
  rw [Int.toNat_of_nonneg (by omega), Int.toNat_of_nonneg (by omega)]
  exact d.ofCivil?_civil

/-- A date is read as it is written, whatever follows. -/
theorem date?_text (d : Date) (rest : List Char) : date? (d.text ++ rest) = some (d, rest) := by
  obtain ⟨-, month, -, day⟩ := d.civil_bounds
  simp only [date?, text_append, year?_yearText, mark?_self,
    @field?_padded d.civil.month.toNat (by omega), @field?_padded d.civil.day.toNat (by omega),
    ofCivil?_fields, some_bind]

/-! ## Times of day -/

/-- The fields that a clock shows make the time again, a leap second included. -/
theorem ofClock?_clock (t : TimeOfDay) :
    TimeOfDay.ofClock? t.hour t.minute t.clockSecond t.fraction = some t := by
  have second := t.second_lt
  have nano := t.nano_lt
  have parts := TimeOfDay.ofParts?_self t
  unfold TimeOfDay.ofClock? TimeOfDay.hour TimeOfDay.minute TimeOfDay.clockSecond TimeOfDay.fraction
  by_cases leap : 1000000000 ≤ t.nano
  · have last := t.leap_last leap
    have whole : t.second / 3600 * 3600 + t.second / 60 % 60 * 60 + 59 = t.second := by omega
    have rest : t.nano % 1000000000 + 1000000000 = t.nano := by omega
    rw [if_pos leap, last, if_pos (by omega), if_pos rfl, whole, rest]
    exact parts
  · have whole : t.second / 3600 * 3600 + t.second / 60 % 60 * 60 + (t.second % 60 + 0) = t.second := by
      omega
    have rest : t.nano % 1000000000 = t.nano := by omega
    rw [if_neg leap, if_pos (by omega), if_neg (by omega), whole, rest]
    exact parts

/-- What may stand behind a time: neither a digit nor a point. -/
def EndsTime (rest : List Char) : Prop := ∀ c ∈ rest.head?, isDigit c = false ∧ c ≠ '.'

theorem nanos?_padded {rest : List Char} (ends : EndsTime rest) (positive : 0 < width) (short : width ≤ 9)
    (h : n < 10 ^ width) : nanos? (padded width n ++ rest) = some (n * 10 ^ (9 - width), rest) := by
  have long := length_padded positive h
  rw [nanos?, span_append (all_isDigit_padded width n) fun c mem => (ends c mem).1]
  simp only [List.take_of_length_le (Nat.le_trans (Nat.le_of_eq long) short), long, value_padded,
    List.isEmpty_iff, padded_ne_nil positive n, if_false]

/-- A fraction is nothing, or a point and a row of digits that counts the nanoseconds. -/
theorem fractionText_cases (t : TimeOfDay) :
    t.fractionText = [] ∧ t.fraction = 0 ∨
      ∃ width n, t.fractionText = '.' :: padded width n ∧ 0 < width ∧ width ≤ 9 ∧ n < 10 ^ width ∧
        n * 10 ^ (9 - width) = t.fraction := by
  have small : t.fraction < 1000000000 := Nat.mod_lt _ (by decide)
  simp only [TimeOfDay.fractionText]
  split
  · next none => exact .inl ⟨rfl, none⟩
  · split
    · exact .inr ⟨3, t.fraction / 1000000, rfl, by omega, by omega, by omega, by omega⟩
    · split
      · exact .inr ⟨6, t.fraction / 1000, rfl, by omega, by omega, by omega, by omega⟩
      · exact .inr ⟨9, t.fraction, rfl, by omega, by omega, small, by omega⟩

theorem fraction?_fractionText (t : TimeOfDay) {rest : List Char} (ends : EndsTime rest) :
    fraction? (t.fractionText ++ rest) = some (t.fraction, rest) := by
  rcases fractionText_cases t with ⟨shown, none⟩ | ⟨width, n, shown, positive, short, h, whole⟩
  · rw [shown, none, List.nil_append]
    cases rest with
    | nil => rfl
    | cons c rest =>
      unfold fraction?
      split
      · next point =>
        cases point
        exact absurd rfl (ends _ rfl).2
      · rfl
  · rw [shown, List.cons_append, fraction?, nanos?_padded ends positive short h, whole]

theorem time_append (t : TimeOfDay) (rest : List Char) : t.text ++ rest = padded 2 t.hour ++
    ':' :: (padded 2 t.minute ++
      ':' :: (padded 2 t.clockSecond ++ (t.fractionText ++ rest))) := by
  simp only [TimeOfDay.text, TimeOfDay.clockText, List.append_assoc, List.cons_append]

theorem clock_bounds (t : TimeOfDay) : t.hour < 100 ∧ t.minute < 100 ∧ t.clockSecond < 100 := by
  have second := t.second_lt
  unfold TimeOfDay.hour TimeOfDay.minute TimeOfDay.clockSecond
  refine ⟨by omega, by omega, ?_⟩
  split <;> omega

theorem time?_text (t : TimeOfDay) {rest : List Char} (ends : EndsTime rest) :
    time? (t.text ++ rest) = some (t, rest) := by
  obtain ⟨hour, minute, second⟩ := clock_bounds t
  simp only [time?, time_append, field?_padded hour, field?_padded minute, field?_padded second, mark?_self,
    fraction?_fractionText t ends, ofClock?_clock, some_bind]

/-! ## Instants -/

/-- Whether the strict grammar has four digits for the year. -/
def InFourDigits (d : Date) : Prop := 0 ≤ d.civil.year ∧ d.civil.year ≤ 9999

/-- What the strict grammar reads behind a date. -/
def instantAfter? (d : Date) (cs : List Char) : Option (Timestamp × List Char) := do
  let cs ← separator? cs
  let (hour, cs) ← fixed? 2 cs
  let cs ← mark? ':' cs
  let (minute, cs) ← fixed? 2 cs
  let cs ← mark? ':' cs
  let (second, cs) ← fixed? 2 cs
  let (nano, cs) ← fraction? cs
  let (offset, cs) ← offset? cs
  let time ← TimeOfDay.ofClock? hour minute second nano
  let instant ← Timestamp.subMinutes? ⟨d, time⟩ offset
  some (instant, cs)

theorem instant?_date {d : Date} (plain : InFourDigits d) (rest : List Char) :
    instant? (d.text ++ rest) = instantAfter? d rest := by
  obtain ⟨-, month, -, day⟩ := d.civil_bounds
  have year : CivilDay.yearText d.civil.year = padded 4 d.civil.year.toNat := if_pos plain
  have place := ofCivil?_fields d
  rw [← Int.toNat_of_nonneg plain.1] at place
  simp only [instant?, instantAfter?, text_append, year, mark?_self,
    @fixed?_padded 4 d.civil.year.toNat (by decide) (by have := plain.2; omega),
    @fixed?_padded 2 d.civil.month.toNat (by decide) (by omega),
    @fixed?_padded 2 d.civil.day.toNat (by decide) (by omega),
    place, some_bind]

theorem instant?_signed {d : Date} (signed : ¬InFourDigits d) (rest : List Char) :
    instant? (d.text ++ rest) = none := by
  have year : CivilDay.yearText d.civil.year = (if d.civil.year < 0 then '-' else '+') :: _ := if_neg signed
  have sign : isDigit (if d.civil.year < 0 then '-' else '+') = false := by split <;> rfl
  have unread (rest : List Char) :
      fixed? 4 ((if d.civil.year < 0 then '-' else '+') :: rest) = none := by
    rw [fixed?, List.take_succ_cons, List.all_cons, sign]
    exact if_neg fun digits => Bool.false_ne_true digits.2
  rw [text_append, year, instant?, List.cons_append, unread]
  rfl

/-- The offset that stands behind the time makes an instant of a local time. -/
theorem instantAfter?_time (d : Date) (t : TimeOfDay) {separator : Char} {rest : List Char}
    (separates : separator? (separator :: (t.text ++ rest)) = some (t.text ++ rest))
    (ends : EndsTime rest) :
    instantAfter? d (separator :: (t.text ++ rest)) = (do
      let (offset, rest) ← offset? rest
      let instant ← Timestamp.subMinutes? ⟨d, t⟩ offset
      some (instant, rest)) := by
  obtain ⟨hour, minute, second⟩ := clock_bounds t
  simp only [instantAfter?, separates, some_bind]
  simp only [time_append, @fixed?_padded 2 t.hour (by decide) hour,
    @fixed?_padded 2 t.minute (by decide) minute,
    @fixed?_padded 2 t.clockSecond (by decide) second, mark?_self,
    fraction?_fractionText t ends, ofClock?_clock, some_bind]

end SqlBind.Calendar

namespace SqlBind

open Calendar Numeral

theorem Timestamp.subMinutes?_zero (t : Timestamp) : t.subMinutes? 0 = some t := by
  have second := t.time.second_lt
  have day : t.date.day + ((t.time.second : Int) - 0 * 60) / 86400 = t.date.day := by omega
  have clock : (((t.time.second : Int) - 0 * 60) % 86400).toNat = t.time.second := by omega
  simp only [Timestamp.subMinutes?, day, clock, Date.ofDay?_day, TimeOfDay.ofParts?_self,
    some_bind]

/-- **Dates and times are read as they are written**, by the readers of their own kind. -/
theorem Date.ofText?_text (d : Date) : Date.ofText? d.text = some d := by
  have read := date?_text d []
  rw [List.append_nil] at read
  rw [Date.ofText?, read]
  rfl

theorem TimeOfDay.ofText?_text (t : TimeOfDay) : TimeOfDay.ofText? t.text = some t := by
  have read := @time?_text t [] fun c mem => by cases mem
  rw [List.append_nil] at read
  rw [TimeOfDay.ofText?, read]
  rfl

namespace Timestamp

theorem ofSpaced?_text (t : Timestamp) : Timestamp.ofSpaced? t.text = some t := by
  have blank : Text.trimStart (' ' :: t.time.text) = t.time.text := by
    have shown := time_append t.time []
    rw [List.append_nil] at shown
    rw [Text.trimStart, List.dropWhile_cons_of_pos (by rfl), shown]
    exact trimStart_padded (by decide) t.time.hour _
  simp only [ofSpaced?, text, date?_text, blank, TimeOfDay.ofText?_text, some_bind]

theorem ofInstant?_instantText {t : Timestamp} (plain : InFourDigits t.date) :
    Timestamp.ofInstant? t.instantText = some t := by
  have ends : EndsTime "+00:00".toList := fun c mem => by
    cases mem
    decide
  rw [ofInstant?, instantText, List.append_assoc, List.cons_append, instant?_date plain,
    instantAfter?_time t.date t.time rfl ends]
  have utc : offset? "+00:00".toList = some (0, []) := by rfl
  simp only [utc, some_bind, subMinutes?_zero]
  rfl

/-! ## Texts of other kinds -/

theorem ofInstant?_text (t : Timestamp) : Timestamp.ofInstant? t.text = none := by
  by_cases plain : InFourDigits t.date
  · have time := @instantAfter?_time t.date t.time ' ' [] rfl fun c mem => by cases mem
    rw [List.append_nil] at time
    rw [ofInstant?, text, instant?_date plain, time]
    rfl
  · rw [ofInstant?, text, instant?_signed plain]
    rfl

theorem ofInstant?_date (d : Date) : Timestamp.ofInstant? d.text = none := by
  rw [ofInstant?, ← List.append_nil d.text]
  by_cases plain : InFourDigits d
  · rw [instant?_date plain]
    rfl
  · rw [instant?_signed plain]
    rfl

theorem ofSpaced?_date (d : Date) : Timestamp.ofSpaced? d.text = none := by
  rw [ofSpaced?, ← List.append_nil d.text, date?_text]
  rfl

theorem ofMarked?_date (d : Date) : Timestamp.ofMarked? d.text = none := by
  rw [ofMarked?, ← List.append_nil d.text, date?_text]
  rfl

end Timestamp

/-! ## No blanks around -/

theorem Date.not_blank_text (d : Date) : ∀ c ∈ d.text, Text.isBlank c = false := by
  intro c mem
  simp only [Date.text, CivilDay.text, CivilDay.yearText, List.mem_append, List.mem_cons] at mem
  rcases mem with (year | rfl | month) | rfl | day
  · split at year
    · exact not_blank_of_mem_padded year
    · rcases List.mem_cons.mp year with rfl | year
      · split <;> rfl
      · exact not_blank_of_mem_padded year
  · rfl
  · exact not_blank_of_mem_padded month
  · rfl
  · exact not_blank_of_mem_padded day

theorem TimeOfDay.not_blank_text (t : TimeOfDay) : ∀ c ∈ t.text, Text.isBlank c = false := by
  intro c mem
  simp only [TimeOfDay.text, TimeOfDay.clockText, List.mem_append, List.mem_cons] at mem
  rcases mem with ((hour | rfl | minute) | rfl | second) | fraction
  · exact not_blank_of_mem_padded hour
  · rfl
  · exact not_blank_of_mem_padded minute
  · rfl
  · exact not_blank_of_mem_padded second
  · rcases fractionText_cases t with ⟨shown, -⟩ | ⟨width, n, shown, -⟩
    · rw [shown] at fraction
      cases fraction
    · rw [shown] at fraction
      rcases List.mem_cons.mp fraction with rfl | digit
      · rfl
      · exact not_blank_of_mem_padded digit

theorem Date.text_ne_nil (d : Date) : d.text ≠ [] := by
  simp [Date.text, CivilDay.text]

theorem TimeOfDay.text_ne_nil (t : TimeOfDay) : t.text ≠ [] := by
  simp [TimeOfDay.text, TimeOfDay.clockText]

theorem Timestamp.trim_text (t : Timestamp) : Text.trim t.text = t.text := by
  have trimmed := Text.trim_between [' '] t.date.text_ne_nil t.time.text_ne_nil t.date.not_blank_text
    t.time.not_blank_text
  rwa [List.append_assoc] at trimmed

theorem Timestamp.trim_instantText (t : Timestamp) : Text.trim t.instantText = t.instantText := by
  have visible : "+00:00".toList.all (fun c => !Text.isBlank c) = true := by decide
  refine Text.trim_between ('T' :: t.time.text) t.date.text_ne_nil (by decide) t.date.not_blank_text ?_
  intro c mem
  simpa using List.all_eq_true.mp visible c mem

end SqlBind
