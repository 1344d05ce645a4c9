import Workforce.Time.Instant

/-!
The minutes of a shift: how many were worked, how many of those fell into the
night, and how they divide into the four kinds that are paid differently.

To see which minutes are of the night, they are looked at one after the other,
up to the first that ends after check-out. So a shift near the end of the time
that is kept can be beyond what can be divided.
-/

namespace Workforce

/-- Minutes by the way they are paid. -/
structure PayableMinutes where
  regular : Int
  overtime : Int
  night : Int
  holiday : Int
deriving DecidableEq, Repr

namespace PayableMinutes

/-- No minutes of any kind. -/
def zero : PayableMinutes := ⟨0, 0, 0, 0⟩

/-- All minutes together. -/
def total (m : PayableMinutes) : Int :=
  m.regular + m.overtime + m.night + m.holiday

/-- The minutes of two shifts, kind by kind. -/
def add (a b : PayableMinutes) : PayableMinutes :=
  { regular := a.regular + b.regular
    overtime := a.overtime + b.overtime
    night := a.night + b.night
    holiday := a.holiday + b.holiday }

instance : Add PayableMinutes := ⟨add⟩

/-- The minutes of many shifts, kind by kind. -/
def sum (ms : List PayableMinutes) : PayableMinutes :=
  ms.foldl (· + ·) zero

end PayableMinutes

/-- A shift from check-in to check-out, with the minutes of unpaid break. -/
structure WorkInterval where
  checkIn : ZonedTime
  checkOut : ZonedTime
  breakMinutes : Int
  isHoliday : Bool
deriving DecidableEq, Repr

/-- Minutes of a day beyond which work is overtime. -/
def dailyRegularLimit : Int := 480

/-- The most minutes of a shift that are looked at for night work: a day. -/
def nightScanLimit : Nat := 1440

/-- Whether a wall clock shows an hour of the night, from midnight to four. -/
def isNightHour (t : ZonedTime) : Bool :=
  0 ≤ t.hour && t.hour < 4

/-- The whole minutes from check-in to check-out, less the break. A negative
break counts for nothing, and no shift has less than no minutes. -/
def workedMinutes (checkIn checkOut : ZonedTime) (breakMinutes : Int) : Int :=
  let elapsed := checkOut.instant.nanoseconds - checkIn.instant.nanoseconds
  if elapsed ≤ 0 then
    0
  else
    max 0 (elapsed / Instant.perMinute - max 0 breakMinutes)

/-- The minutes from `minute` on that begin in an hour of the night, as far as
they end by check-out, and at most so many of them. The end of a minute is
stepped to before it is compared with the check-out. -/
def countNight (checkOut : Instant) :
    (limit : Nat) → (minute : ZonedTime) → Except Overflow Int
  | 0, _ => .ok 0
  | limit + 1, minute => do
    let next ← minute.nextMinute
    if checkOut < next.instant then
      return 0
    let later ← countNight checkOut limit next
    return (if isNightHour minute then 1 else 0) + later

/-- The minutes of a shift that begin in an hour of the night, on the wall
clock of the check-in. -/
def nightMinutes (checkIn checkOut : ZonedTime) : Except Overflow Int :=
  countNight checkOut.instant nightScanLimit checkIn

/-- Divides worked minutes, of which so many were seen to be of the night. What
is beyond the daily limit is overtime. The rest is holiday work on a holiday; on
any other day it is night work as far as there are minutes of the night, and
else regular. -/
def PayableMinutes.divide (worked dark : Int) (isHoliday : Bool) :
    PayableMinutes :=
  let base := min worked dailyRegularLimit
  let overtime := max 0 (worked - dailyRegularLimit)
  if isHoliday then
    { regular := 0, overtime, night := 0, holiday := base }
  else
    let night := min dark base
    { regular := base - night, overtime, night, holiday := 0 }

/-- Divides the minutes of a shift. Minutes of the night are looked for only
where there was work, and on no holiday. -/
def splitMinutes (checkIn checkOut : ZonedTime) (breakMinutes : Int)
    (isHoliday : Bool) : Except Overflow PayableMinutes :=
  let worked := workedMinutes checkIn checkOut breakMinutes
  if worked ≤ 0 then
    .ok .zero
  else if isHoliday then
    .ok (.divide worked 0 true)
  else do
    let dark ← nightMinutes checkIn checkOut
    return .divide worked dark false

/-- The minutes of a shift by the way they are paid. -/
def WorkInterval.split (w : WorkInterval) : Except Overflow PayableMinutes :=
  splitMinutes w.checkIn w.checkOut w.breakMinutes w.isHoliday

end Workforce
