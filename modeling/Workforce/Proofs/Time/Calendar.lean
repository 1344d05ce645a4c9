import Workforce.Time.Calendar

/-!
# Every day has its date

The date of a day number falls on that day (`dayNumber_ofDayNumber`), so that it
is one that the calendar has, with a month from 1 to 12 and a day from 1 to 31.

Days are counted in cycles of 400 years that begin in March.  The one thing to
be worked out is in which year of its cycle a day lies (`cycleYear_bounds`).
-/

namespace Workforce.Date

/-- The year of a cycle in which day `n` of the cycle lies. -/
def cycleYear (n : Int) : Int :=
  (n - n / 1460 + n / 36524 - n / 146096) / 365

/-- A day of a cycle lies in a year of it, and is one of the 366 that follow the
day on which the year begins. -/
theorem cycleYear_bounds {n : Int} (within : 0 ≤ n ∧ n < 146097) :
    (0 ≤ cycleYear n ∧ cycleYear n < 400) ∧
      0 ≤ n - cycleDay (cycleYear n) ∧ n - cycleDay (cycleYear n) ≤ 365 := by
  -- The last day is the leap day of a year that only its cycle makes leap.
  by_cases last : n = 146096
  · subst last
    decide
  -- Day `n` is day `s` of span `q` of four years, in century `c`.
  obtain ⟨c, century⟩ : ∃ c, c = n / 36524 := ⟨_, rfl⟩
  obtain ⟨q, span⟩ : ∃ q, q = n % 36524 / 1461 := ⟨_, rfl⟩
  obtain ⟨s, day⟩ : ∃ s, s = n % 36524 % 1461 := ⟨_, rfl⟩
  obtain ⟨k, year⟩ : ∃ k, k = (s - (24 * c + q + s) / 1460) / 365 :=
    ⟨_, rfl⟩
  have centuries : 0 ≤ c ∧ c ≤ 3 := by omega
  have spans : 0 ≤ q ∧ q ≤ 24 := by omega
  have days : 0 ≤ s ∧ s ≤ 1460 := by omega
  have sum : n = 36524 * c + 1461 * q + s := by omega
  have leapDays : n / 1460 = 25 * c + q + (24 * c + q + s) / 1460 := by omega
  have found : cycleYear n = 100 * c + 4 * q + k := by
    unfold cycleYear
    omega
  have years : 0 ≤ k ∧ k ≤ 3 := by omega
  have inYear : 365 * k ≤ s ∧ s ≤ 365 * k + 365 := by omega
  have fourth : cycleYear n / 4 = 25 * c + q := by omega
  have hundredth : cycleYear n / 100 = c := by omega
  unfold cycleDay
  omega

/-- A day of a year lies in one of twelve months, and is one of the 31 that
follow the day on which the month begins. -/
theorem month_bounds {n : Int} (within : 0 ≤ n ∧ n ≤ 365) :
    let m := (5 * n + 2) / 153
    (0 ≤ m ∧ m < 12) ∧ 0 ≤ n - monthDay m ∧ n - monthDay m ≤ 30 := by
  intro m
  unfold monthDay
  omega

/-- The cycle in which a day lies. -/
def cycleOf (n : Int) : Int :=
  (n + epochShift) / 146097

/-- The date of a day, by the year of its cycle, the day of the year and the
month, each within its bounds. -/
theorem ofDayNumber_eq (n : Int) :
    ∃ y inYear m : Int,
      n + epochShift = cycleOf n * 146097 + cycleDay y + inYear ∧
      (0 ≤ y ∧ y < 400) ∧ (0 ≤ m ∧ m < 12) ∧
      (0 ≤ inYear - monthDay m ∧ inYear - monthDay m ≤ 30) ∧
      ofDayNumber n =
        { year := if (if m < 10 then m + 3 else m - 9) ≤ 2
            then cycleOf n * 400 + y + 1 else cycleOf n * 400 + y
          month := if m < 10 then m + 3 else m - 9
          day := inYear - monthDay m + 1 } := by
  have within :
      0 ≤ (n + epochShift) % 146097 ∧ (n + epochShift) % 146097 < 146097 := by
    omega
  obtain ⟨years, days⟩ := cycleYear_bounds within
  obtain ⟨months, inMonth⟩ := month_bounds days
  refine ⟨_, _, _, ?_, years, months, inMonth, rfl⟩
  unfold cycleOf
  omega

/-- The date of a day falls on that day. -/
theorem dayNumber_ofDayNumber (n : Int) : (ofDayNumber n).dayNumber = n := by
  obtain ⟨y, inYear, m, sum, years, months, _, date⟩ := ofDayNumber_eq n
  have month : ((if m < 10 then m + 3 else m - 9) + 9) % 12 = m := by
    split
    · omega
    · omega
  have year : ∀ early : Prop, [Decidable early] →
      (if early then
        (if early then cycleOf n * 400 + y + 1 else cycleOf n * 400 + y) - 1
      else
        (if early then cycleOf n * 400 + y + 1 else cycleOf n * 400 + y)) =
          cycleOf n * 400 + y := by
    intro early _
    split
    · exact Int.add_sub_cancel _ _
    · rfl
  rw [date, dayNumber]
  dsimp only
  rw [year, month]
  have sameCycle : (cycleOf n * 400 + y) / 400 = cycleOf n := by omega
  have sameYear : (cycleOf n * 400 + y) % 400 = y := by omega
  rw [sameCycle, sameYear]
  omega

theorem exists_ofDayNumber (n : Int) : (ofDayNumber n).Exists :=
  congrArg ofDayNumber (dayNumber_ofDayNumber n)

theorem month_ofDayNumber (n : Int) :
    1 ≤ (ofDayNumber n).month ∧ (ofDayNumber n).month ≤ 12 := by
  obtain ⟨_, _, m, _, _, months, _, date⟩ := ofDayNumber_eq n
  rw [date]
  dsimp only
  split
  · omega
  · omega

theorem day_ofDayNumber (n : Int) :
    1 ≤ (ofDayNumber n).day ∧ (ofDayNumber n).day ≤ 31 := by
  obtain ⟨_, inYear, m, _, _, _, inMonth, date⟩ := ofDayNumber_eq n
  rw [date]
  dsimp only
  omega

/-- The year of a day is one of those that its cycle meets. -/
theorem year_ofDayNumber (n : Int) :
    cycleOf n * 400 ≤ (ofDayNumber n).year ∧
      (ofDayNumber n).year ≤ cycleOf n * 400 + 400 := by
  obtain ⟨y, _, m, _, years, _, _, date⟩ := ofDayNumber_eq n
  rw [date]
  dsimp only
  split
  · omega
  · omega

end Workforce.Date
