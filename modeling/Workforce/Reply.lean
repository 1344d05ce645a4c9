import Workforce.Activity
import Workforce.Attendance.Record
import Workforce.Leave.Balance
import Workforce.Pay.Run
import Workforce.People
import Workforce.Schedule

/-!
The replies that operations and the store give to calls.
-/

namespace Workforce

/-- A value that is replied. -/
inductive Reply where
  | nothing
  | record (r : AttendanceRecord)
  | records (rs : List AttendanceRecord)
  | aggregates (rows : List AttendanceAggregate)
  | leave (r : LeaveRequest)
  | leaves (rs : List LeaveRequest)
  | decisions (ds : List LeaveDecision)
  | balance (b : LeaveBalance)
  | approval (a : LeaveApproval)
  | schedule (s : WorkSchedule)
  | schedules (rows : List WorkSchedule)
  | preview (p : PayrollPreview)
  | run (r : PayrollRun)
  | runs (rs : List PayrollRun)
  | profile (p : DeductionProfile)
  | employee (e : Employee)
  | employees (es : List Employee)
  | organization (o : Organization)
  | organizations (os : List Organization)
  | audit (entries : List AuditEntry)
  | events (events : List DomainEvent)

/-- What was found, or nothing. -/
def Reply.found {α : Type} (reply : α → Reply) (value : Option α) : Reply :=
  value.elim .nothing reply

end Workforce
