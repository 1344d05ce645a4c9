/-!
The proleptic Gregorian calendar: day numbers, counted from the first of
January 1970, and the dates they fall on.

Years are taken to begin in March, so that a leap day is the last of its year
and 400 years always have 146097 days.
-/

namespace Workforce

/-- A year, a month of it and a day of the month. -/
structure Date where
  year : Int
  month : Int
  day : Int
deriving DecidableEq, Repr

namespace Date

/-- The days from the first of March of the year 0 to the first of January
1970. -/
def epochShift : Int := 719468

/-- The day of a cycle of 400 years on which year `y` of the cycle begins. -/
def cycleDay (y : Int) : Int :=
  365 * y + y / 4 - y / 100

/-- The day of the year on which month `m` begins; March is month 0. -/
def monthDay (m : Int) : Int :=
  (153 * m + 2) / 5

/-- The number of the day on which a date falls. Dates that do not exist are
counted on into the months that follow. -/
def dayNumber (d : Date) : Int :=
  let year := if d.month ≤ 2 then d.year - 1 else d.year
  let cycle := year / 400
  let month := (d.month + 9) % 12
  cycle * 146097 + cycleDay (year % 400) + monthDay month + (d.day - 1) -
    epochShift

/-- The date of a day number. -/
def ofDayNumber (n : Int) : Date :=
  let shifted := n + epochShift
  let cycle := shifted / 146097
  let inCycle := shifted % 146097
  let y := (inCycle - inCycle / 1460 + inCycle / 36524 - inCycle / 146096) / 365
  let inYear := inCycle - cycleDay y
  let m := (5 * inYear + 2) / 153
  let month := if m < 10 then m + 3 else m - 9
  let year := cycle * 400 + y
  { year := if month ≤ 2 then year + 1 else year
    month
    day := inYear - monthDay m + 1 }

/-- Whether the calendar has this date. -/
def Exists (d : Date) : Prop :=
  ofDayNumber d.dayNumber = d

instance (d : Date) : Decidable d.Exists :=
  inferInstanceAs (Decidable (_ = _))

end Date
end Workforce
