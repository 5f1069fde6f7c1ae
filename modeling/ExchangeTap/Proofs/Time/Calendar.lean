import ExchangeTap.Time.Calendar

namespace ExchangeTap.Date

section Cycle

variable {days century quad single rest carry year month : Int}

private theorem daysBefore_year (quads : 0 ≤ quad ∧ quad < 25) (singles : 0 ≤ single ∧ single < 4) :
    365 * (100 * century + 4 * quad + single) + (100 * century + 4 * quad + single) / 4 -
        (100 * century + 4 * quad + single) / 100 =
      36524 * century + 1461 * quad + 365 * single := by
  omega

/-- Near the end of four years one day too many is taken off, which does no harm there. -/
private theorem yearOfCycle_eq (split : days = 36524 * century + 1461 * quad + rest)
    (centuries : 0 ≤ century ∧ century < 4) (quads : 0 ≤ quad ∧ quad < 25)
    (rests : 0 ≤ rest ∧ rest < 1461) (within : 1461 * quad + rest < 36524) :
    ∃ carry, (carry = 0 ∧ rest < 1460 ∨ carry = 1 ∧ 1363 < rest) ∧
      (days - days / 1460 + days / 36524 - days / 146096) / 365 =
        100 * century + 4 * quad + (rest - carry) / 365 := by
  have hundreds : days / 36524 = century := by omega
  have cycles : days / 146096 = 0 := by omega
  have fours : days / 1460 = 25 * century + quad + (24 * century + quad + rest) / 1460 := by omega
  refine ⟨(24 * century + quad + rest) / 1460, by omega, ?_⟩
  rw [hundreds, cycles, fours, split]
  omega

/-- The day that a leap year has more than others is in the last of four years. -/
private theorem singleYear_bounds (rests : 0 ≤ rest ∧ rest < 1461)
    (carried : carry = 0 ∧ rest < 1460 ∨ carry = 1 ∧ 1363 < rest) :
    (0 ≤ (rest - carry) / 365 ∧ (rest - carry) / 365 < 4) ∧
      0 ≤ rest - 365 * ((rest - carry) / 365) ∧ rest - 365 * ((rest - carry) / 365) < 366 := by
  omega

private theorem yearOfCycle_bounds (first : 0 ≤ days) (last : days < 146097)
    (found : year = (days - days / 1460 + days / 36524 - days / 146096) / 365) :
    (0 ≤ year ∧ year < 400) ∧
      0 ≤ days - (365 * year + year / 4 - year / 100) ∧
        days - (365 * year + year / 4 - year / 100) < 366 := by
  -- The last day of a cycle is the leap day of its last year: a fifth century would start there.
  by_cases leap : days = 146096
  · subst leap
    omega
  · obtain ⟨century, quad, rest, split, centuries, quads, rests, within⟩ :
        ∃ century quad rest : Int, days = 36524 * century + 1461 * quad + rest ∧
          (0 ≤ century ∧ century < 4) ∧ (0 ≤ quad ∧ quad < 25) ∧ (0 ≤ rest ∧ rest < 1461) ∧
            1461 * quad + rest < 36524 :=
      ⟨days / 36524, days % 36524 / 1461, days % 36524 % 1461, by omega⟩
    obtain ⟨carry, carried, years⟩ := yearOfCycle_eq split centuries quads rests within
    have singles := singleYear_bounds rests carried
    generalize (rest - carry) / 365 = single at years singles
    rw [found, years, daysBefore_year quads singles.1, split]
    clear found years split carried
    omega

private theorem monthFromMarch_bounds (first : 0 ≤ days) (last : days < 366)
    (found : month = (5 * days + 2) / 153) :
    (0 ≤ month ∧ month < 12) ∧
      0 ≤ days - (153 * month + 2) / 5 ∧ days - (153 * month + 2) / 5 < 31 := by
  omega

end Cycle

/-- Months are numbered from January, and not from March. -/
def calendarMonth (month : Int) : Int :=
  if month < 10 then month + 3 else month - 9

private theorem calendarMonth_bounds {month : Int} (months : 0 ≤ month ∧ month < 12) :
    1 ≤ calendarMonth month ∧ calendarMonth month ≤ 12 := by
  unfold calendarMonth
  split <;> omega

private theorem fromMarch_calendarMonth {month : Int} (months : 0 ≤ month ∧ month < 12) :
    (if 2 < calendarMonth month then calendarMonth month - 3 else calendarMonth month + 9) = month := by
  unfold calendarMonth
  split <;> split <;> omega

private theorem exists_parts (days : Int) : ∃ cycle year month day : Int,
    (0 ≤ year ∧ year < 400) ∧ (0 ≤ month ∧ month < 12) ∧ (0 ≤ day ∧ day < 31) ∧
      days = cycle * 146097 +
        (year * 365 + year / 4 - year / 100 + ((153 * month + 2) / 5 + day)) - 719468 ∧
      ofDays days = ⟨year + cycle * 400 + (if calendarMonth month ≤ 2 then 1 else 0), calendarMonth month,
        day + 1⟩ := by
  have first : 0 ≤ (days + 719468) % 146097 := by omega
  have last : (days + 719468) % 146097 < 146097 := by omega
  obtain ⟨years, start, ending⟩ := yearOfCycle_bounds first last rfl
  obtain ⟨months, opening, closing⟩ := monthFromMarch_bounds start ending rfl
  refine ⟨(days + 719468) / 146097, _, _, _, years, months, ⟨opening, closing⟩, ?_, rfl⟩
  omega

theorem toDays_ofDays (days : Int) : (ofDays days).toDays = days := by
  obtain ⟨cycle, year, month, day, years, months, -, split, date⟩ := exists_parts days
  have cycles : (year + cycle * 400) / 400 = cycle := by omega
  have within : (year + cycle * 400) % 400 = year := by omega
  rw [date, toDays]
  simp only [Int.add_sub_cancel, cycles, within, fromMarch_calendarMonth months]
  omega

theorem exists_ofDays (days : Int) : (ofDays days).exists? = true := by
  rw [exists?, toDays_ofDays, decide_eq_true rfl]

theorem month_ofDays (days : Int) : 1 ≤ (ofDays days).month ∧ (ofDays days).month ≤ 12 := by
  obtain ⟨cycle, year, month, day, -, months, -, -, date⟩ := exists_parts days
  rw [date]
  exact calendarMonth_bounds months

theorem day_ofDays (days : Int) : 1 ≤ (ofDays days).day ∧ (ofDays days).day ≤ 31 := by
  obtain ⟨cycle, year, month, day, -, -, inMonth, -, date⟩ := exists_parts days
  rw [date]
  dsimp only
  omega

end ExchangeTap.Date
