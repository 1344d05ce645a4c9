import Workforce.Attendance.Minutes
import Workforce.Decimal.Basic
import Workforce.Fault

/-!
Gross pay: what the four kinds of minutes come to at an hourly rate. Every
amount stays an exact decimal until the last step, which rounds the sum to
whole won.
-/

namespace Workforce

/-- The factors by which the hourly rate is multiplied, by kind of minutes. -/
structure Multipliers where
  regular : Decimal
  overtime : Decimal
  night : Decimal
  holiday : Decimal
deriving DecidableEq, Repr

namespace Multipliers

/-- One and a half. -/
def threeHalves : Decimal := ⟨false, 15, 1, by decide, by decide⟩

/-- The plain rate for regular minutes and half as much again for others. -/
def standard : Multipliers :=
  ⟨Decimal.one, threeHalves, threeHalves, threeHalves⟩

/-- Whether every factor is above zero. -/
def arePositive (m : Multipliers) : Bool :=
  [m.regular, m.overtime, m.night, m.holiday].all Decimal.isPositive

/-- Passes factors that are all above zero. -/
def validate (m : Multipliers) : Outcome Unit :=
  Outcome.ensure m.arePositive (.validation "multipliers must be positive")

end Multipliers

/-- Pay by kind of minutes, and the whole of it in won. -/
structure GrossBreakdown where
  regular : Decimal
  overtime : Decimal
  night : Decimal
  holiday : Decimal
  grossPay : Int
deriving DecidableEq, Repr

/-- The nearest whole amount in won, a half away from zero, within 64 bits. -/
def roundWon (amount : Decimal) : Int :=
  saturate amount.roundHalfAway

/-- The night minutes that are paid as such; further ones are overtime too. -/
def nightBaseLimit : Int := 180

/-- Pay for minutes of one kind. -/
def bucketPay (minutes hourlyRate : Int) (multiplier : Decimal) :
    Except Overflow Decimal := do
  let minutes ← Decimal.ofInt minutes
  let rate ← Decimal.ofInt hourlyRate
  let base ← minutes.mul rate
  let scaled ← base.mul multiplier
  scaled.divWhole 60

/-- Pay by kind of minutes. Overtime on a holiday is paid along with the
holiday, by both factors; night minutes beyond the limit are paid by the night
factor and what the overtime factor adds to one. -/
def grossBreakdown (minutes : PayableMinutes) (hourlyRate : Int)
    (m : Multipliers) : Except Overflow GrossBreakdown := do
  let onHoliday : Bool := 0 < minutes.holiday
  let regular ← bucketPay minutes.regular hourlyRate m.regular
  let overtime ←
    if onHoliday then pure Decimal.zero
    else bucketPay minutes.overtime hourlyRate m.overtime
  let nightBase ←
    bucketPay (min minutes.night nightBaseLimit) hourlyRate m.night
  let lateFactor ← (← m.night.add m.overtime).sub Decimal.one
  let nightLate ←
    bucketPay (max (minutes.night - nightBaseLimit) 0) hourlyRate lateFactor
  let night ← nightBase.add nightLate
  let holidayBase ← bucketPay minutes.holiday hourlyRate m.holiday
  let holidayFactor ← m.holiday.mul m.overtime
  let holidayOvertime ←
    bucketPay (if onHoliday then minutes.overtime else 0) hourlyRate
      holidayFactor
  let holiday ← holidayBase.add holidayOvertime
  let sum ← (← (← regular.add overtime).add night).add holiday
  return { regular, overtime, night, holiday, grossPay := roundWon sum }

end Workforce
