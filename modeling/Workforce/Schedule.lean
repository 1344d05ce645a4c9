import Workforce.Access.Tenant
import Workforce.Attendance.Minutes

/-!
Work schedules: the shifts that employees are assigned to.
-/

namespace Workforce

/-- A shift that an employee is assigned to, from its start up to but without
its end. -/
structure WorkSchedule where
  id : String
  employee : String
  organization : Option String
  start : ZonedTime
  finish : ZonedTime
  breakMinutes : Int
  isHoliday : Bool
  notes : Option String
  createdAt : Instant
deriving DecidableEq, Repr

instance : Owned WorkSchedule := ⟨WorkSchedule.organization⟩

namespace WorkSchedule

/-- The assigned shift. -/
def workInterval (s : WorkSchedule) : WorkInterval :=
  { checkIn := s.start
    checkOut := s.finish
    breakMinutes := s.breakMinutes
    isHoliday := s.isHoliday }

/-- Whether a schedule has an instant in common with the span from `start` up
to but without `finish`. Shifts that follow one another have none. -/
def overlaps (s : WorkSchedule) (start finish : Instant) : Bool :=
  s.start.instant < finish && start < s.finish.instant

end WorkSchedule
end Workforce
