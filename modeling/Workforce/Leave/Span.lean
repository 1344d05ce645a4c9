import Workforce.Fault
import Workforce.Time.Instant

/-!
Spans of leave: which civil days they touch, on a calendar that is nine hours
ahead of UTC for everybody.
-/

namespace Workforce

/-- The seconds by which civil days are ahead of UTC. -/
def civilOffsetSeconds : Int := 32400

/-- The number of the civil day that an instant falls on. Day 0 begins at
15:00 UTC on the last day of 1969. -/
def civilDay (t : Instant) : Int :=
  (t.nanoseconds / Instant.perSecond + civilOffsetSeconds) / 86400

/-- The civil days from `first` to `last`, both included. -/
structure DayRange where
  first : Int
  last : Int
deriving DecidableEq, Repr

namespace DayRange

/-- The civil days from one instant to another. -/
def ofInstants (start finish : Instant) : DayRange :=
  ⟨civilDay start, civilDay finish⟩

/-- Whether two ranges have a day in common. -/
def overlaps (a b : DayRange) : Bool :=
  a.first ≤ b.last && b.first ≤ a.last

/-- How many days a range has. -/
def length (r : DayRange) : Int :=
  r.last - r.first + 1

end DayRange

/-- The number of civil days that a leave from `start` to `finish` takes. -/
def leaveDays (start finish : Instant) : Outcome Int := do
  Outcome.ensure (start ≤ finish)
    (.validation "endDate must be same or after startDate")
  let days := (DayRange.ofInstants start finish).length
  Outcome.ensure (0 < days) (.validation "leave days must be positive")
  return days

end Workforce
