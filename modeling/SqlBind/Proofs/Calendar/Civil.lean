/-
Every day has its place in the calendar. The days of four centuries are whole
centuries, whole groups of four years, whole years and the days of one year
(`cycle_parts`); from these the year of the cycle is read off, and so the place that
is computed for a day is one the calendar has (`isValid_ofNumber`) and numbers that
day (`toNumber_ofNumber`).
-/
import SqlBind.Calendar.Date

namespace SqlBind.CivilDay

/-- Days of four centuries, counted by centuries, groups of four years and years. The
last day of a leap year has a number of its own. -/
theorem cycle_parts {day : Int} (low : 0 ≤ day) (high : day < 146097) :
    ∃ century group year dayOfYear : Int, day = 36524 * century + 1461 * group + 365 * year + dayOfYear ∧
      0 ≤ century ∧ century ≤ 3 ∧ 0 ≤ group ∧ group ≤ 24 ∧ 0 ≤ year ∧ year ≤ 3 ∧
      0 ≤ dayOfYear ∧ dayOfYear ≤ 365 ∧ (dayOfYear = 365 → year = 3 ∧ (group < 24 ∨ century = 3)) := by
  have century : ∃ c : Int, 0 ≤ c ∧ c ≤ 3 ∧ 36524 * c ≤ day ∧ (day < 36524 * (c + 1) ∨ c = 3) :=
    ⟨min (day / 36524) 3, by omega, by omega, by omega, by omega⟩
  obtain ⟨c, hc, hc', hd, hd'⟩ := century
  have year : ∃ y : Int, 0 ≤ y ∧ y ≤ 3 ∧ 365 * y ≤ (day - 36524 * c) % 1461 ∧
      ((day - 36524 * c) % 1461 < 365 * (y + 1) ∨ y = 3) :=
    ⟨min ((day - 36524 * c) % 1461 / 365) 3, by omega, by omega, by omega, by omega⟩
  obtain ⟨y, hy, hy', ht, ht'⟩ := year
  refine ⟨c, (day - 36524 * c) / 1461, y, (day - 36524 * c) % 1461 - 365 * y, ?_⟩
  omega

theorem yearOfCycle_eq {day century group year dayOfYear : Int}
    (parts : day = 36524 * century + 1461 * group + 365 * year + dayOfYear)
    (hc : 0 ≤ century) (hc' : century ≤ 3) (hg : 0 ≤ group) (hg' : group ≤ 24) (hy : 0 ≤ year)
    (hy' : year ≤ 3) (ht : 0 ≤ dayOfYear) (ht' : dayOfYear ≤ 365)
    (last : dayOfYear = 365 → year = 3 ∧ (group < 24 ∨ century = 3)) :
    (day - day / 1460 + day / 36524 - day / 146096) / 365 = 100 * century + 4 * group + year := by
  have centuries : day / 36524 - day / 146096 = century := by
    obtain ⟨rest, parts, before⟩ : ∃ rest : Int, day = 36524 * century + rest ∧
        (0 ≤ rest ∧ rest ≤ 36523 ∨ rest = 36524 ∧ century = 3) :=
      ⟨1461 * group + 365 * year + dayOfYear, by omega, by omega⟩
    omega
  have groups : day / 1460 = 25 * century + group ∨
      day / 1460 = 25 * century + group + 1 ∧ 1364 ≤ 365 * year + dayOfYear := by omega
  rcases groups with groups | ⟨groups, late⟩
  · omega
  · omega

/-- Days of a cycle, counted by years that start in March and the days of one. -/
theorem cycle_years {day : Int} (low : 0 ≤ day) (high : day < 146097) :
    ∃ year dayOfYear : Int,
      (day - day / 1460 + day / 36524 - day / 146096) / 365 = year ∧
      day = 365 * year + year / 4 - year / 100 + dayOfYear ∧
      0 ≤ year ∧ year ≤ 399 ∧ 0 ≤ dayOfYear ∧ dayOfYear ≤ 365 ∧
      (dayOfYear = 365 → isLeapYear (year + 1) = true) := by
  obtain ⟨century, group, year, dayOfYear, parts, hc, hc', hg, hg', hy, hy', ht, ht', last⟩ :=
    cycle_parts low high
  have fourths : (100 * century + 4 * group + year) / 4 = 25 * century + group := by omega
  have hundredths : (100 * century + 4 * group + year) / 100 = century := by omega
  refine ⟨100 * century + 4 * group + year, dayOfYear,
    yearOfCycle_eq parts hc hc' hg hg' hy hy' ht ht' last, ?_, by omega, by omega, ht, ht', ?_⟩
  · rw [fourths, hundredths, parts]
    omega
  · intro long
    obtain ⟨rfl, inner⟩ := last long
    simp only [isLeapYear, Bool.and_eq_true, Bool.or_eq_true, beq_iff_eq, bne_iff_ne]
    omega

/-- The place of a day by cycle, year of the cycle and day of that year, which starts in March. -/
def ofParts (cycle yearOfCycle dayOfYear : Int) : CivilDay :=
  let month := (5 * dayOfYear + 2) / 153
  let year := cycle * 400 + yearOfCycle
  { year := if month < 10 then year else year + 1
    month := if month < 10 then month + 3 else month - 9
    day := dayOfYear - (153 * month + 2) / 5 + 1 }

theorem ofNumber_parts (n : Int) : ∃ cycle yearOfCycle dayOfYear : Int,
    ofNumber n = ofParts cycle yearOfCycle dayOfYear ∧
      n + 719468 = cycle * 146097 + (365 * yearOfCycle + yearOfCycle / 4 - yearOfCycle / 100 + dayOfYear) ∧
      0 ≤ yearOfCycle ∧ yearOfCycle ≤ 399 ∧ 0 ≤ dayOfYear ∧ dayOfYear ≤ 365 ∧
      (dayOfYear = 365 → isLeapYear (yearOfCycle + 1) = true) := by
  obtain ⟨yearOfCycle, dayOfYear, year, day, bounds⟩ := cycle_years
    (Int.emod_nonneg (n + 719468) (b := 146097) (by decide))
    (Int.emod_lt_of_pos (n + 719468) (b := 146097) (by decide))
  have first : (n + 719468) % 146097 - (365 * yearOfCycle + yearOfCycle / 4 - yearOfCycle / 100) =
      dayOfYear := by
    omega
  refine ⟨(n + 719468) / 146097, yearOfCycle, dayOfYear, ?_, ?_, bounds⟩
  · simp only [ofNumber, year, first]
    rfl
  · rw [← day, Int.mul_comm, Int.mul_ediv_add_emod]

theorem toNumber_ofParts {cycle year dayOfYear : Int} (hy : 0 ≤ year) (hy' : year ≤ 399)
    (hd : 0 ≤ dayOfYear) (hd' : dayOfYear ≤ 365) :
    (ofParts cycle year dayOfYear).toNumber =
      cycle * 146097 + (365 * year + year / 4 - year / 100 + dayOfYear) - 719468 := by
  have cycles : (cycle * 400 + year) / 400 = cycle := by omega
  have years : (cycle * 400 + year) % 400 = year := by omega
  have low : 0 ≤ (5 * dayOfYear + 2) / 153 := by omega
  have high : (5 * dayOfYear + 2) / 153 ≤ 11 := by omega
  unfold ofParts toNumber
  generalize (5 * dayOfYear + 2) / 153 = month at *
  by_cases early : month < 10
  · have months : (month + 3 + 9) % 12 = month := by omega
    have same : ¬month + 3 ≤ 2 := by omega
    simp only [early, same, if_true, if_false, months, cycles, years]
    omega
  · have months : (month - 9 + 9) % 12 = month := by omega
    have next : month - 9 ≤ 2 := by omega
    have shifted : cycle * 400 + year + 1 - 1 = cycle * 400 + year := by omega
    simp only [early, next, if_true, if_false, months, shifted, cycles, years]
    omega

theorem toNumber_ofNumber (n : Int) : (ofNumber n).toNumber = n := by
  obtain ⟨cycle, year, dayOfYear, place, number, hy, hy', hd, hd', -⟩ := ofNumber_parts n
  rw [place, toNumber_ofParts hy hy' hd hd', ← number]
  omega

theorem isLeapYear_cycle (cycle year : Int) : isLeapYear (cycle * 400 + year) = isLeapYear year := by
  have fourths : (cycle * 400 + year) % 4 = year % 4 := by omega
  have hundredths : (cycle * 400 + year) % 100 = year % 100 := by omega
  have whole : (cycle * 400 + year) % 400 = year % 400 := by omega
  rw [isLeapYear, fourths, hundredths, whole]
  rfl

theorem isValid_ofParts {cycle year dayOfYear : Int} (hd : 0 ≤ dayOfYear) (hd' : dayOfYear ≤ 365)
    (leap : dayOfYear = 365 → isLeapYear (year + 1) = true) :
    (ofParts cycle year dayOfYear).isValid = true := by
  have months : (5 * dayOfYear + 2) / 153 = 11 ∨ (5 * dayOfYear + 2) / 153 < 11 := by omega
  rcases months with february | month
  · -- The year that starts in March ends with the February of the next year.
    have leaps : dayOfYear = 365 → isLeapYear (cycle * 400 + year + 1) = true := by
      intro long
      rw [Int.add_assoc, isLeapYear_cycle]
      exact leap long
    simp only [isValid, ofParts, february, daysInMonth, Bool.and_eq_true, decide_eq_true_eq]
    refine ⟨⟨⟨by decide, by decide⟩, by omega⟩, ?_⟩
    cases long : isLeapYear (cycle * 400 + year + 1) <;> simp [long] at leaps ⊢ <;> omega
  · have low : 0 ≤ (5 * dayOfYear + 2) / 153 := by omega
    unfold ofParts
    generalize fromMarch : (5 * dayOfYear + 2) / 153 = m at *
    have months : m = 0 ∨ m = 1 ∨ m = 2 ∨ m = 3 ∨ m = 4 ∨ m = 5 ∨ m = 6 ∨ m = 7 ∨ m = 8 ∨ m = 9 ∨
        m = 10 := by omega
    rcases months with rfl | rfl | rfl | rfl | rfl | rfl | rfl | rfl | rfl | rfl | rfl <;>
      simp [isValid, daysInMonth] <;> omega

theorem isValid_ofNumber (n : Int) : (ofNumber n).isValid = true := by
  obtain ⟨cycle, year, dayOfYear, place, -, -, -, hd, hd', leap⟩ := ofNumber_parts n
  rw [place]
  exact isValid_ofParts hd hd' leap

end SqlBind.CivilDay

namespace SqlBind.Date

/-- The calendar has every day's place, and it is the place of that day. -/
theorem ofCivil?_civil (d : Date) : ofCivil? d.civil = some d := by
  rw [ofCivil?, civil, CivilDay.isValid_ofNumber, if_pos rfl, CivilDay.toNumber_ofNumber]
  exact ofDay?_day d

theorem civil_bounds (d : Date) :
    1 ≤ d.civil.month ∧ d.civil.month ≤ 12 ∧ 1 ≤ d.civil.day ∧ d.civil.day ≤ 31 := by
  have valid := CivilDay.isValid_ofNumber d.day
  simp only [CivilDay.isValid, Bool.and_eq_true, decide_eq_true_eq] at valid
  obtain ⟨⟨⟨low, high⟩, first⟩, last⟩ := valid
  refine ⟨low, high, first, Int.le_trans last ?_⟩
  unfold CivilDay.daysInMonth
  split
  · split <;> decide
  · split <;> decide

end SqlBind.Date
