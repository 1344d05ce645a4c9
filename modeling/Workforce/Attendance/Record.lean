import Workforce.Access.Tenant
import Workforce.Attendance.Minutes
import Workforce.Sorting
import Workforce.Text.Named

/-!
Attendance records: a shift of an employee, and what was decided about it.
-/

namespace Workforce

/-- Where a record stands. Only a pending one can change. -/
inductive AttendanceState where
  | pending
  | approved
  | rejected
deriving DecidableEq, Repr

instance : Named AttendanceState where
  all := [.pending, .approved, .rejected]
  name
    | .pending => "PENDING"
    | .approved => "APPROVED"
    | .rejected => "REJECTED"

/-- A shift of an employee. It is open while there is no check-out. -/
structure AttendanceRecord where
  id : String
  employee : String
  organization : Option String
  checkIn : ZonedTime
  checkOut : Option ZonedTime
  breakMinutes : Int
  isHoliday : Bool
  notes : Option String
  state : AttendanceState
  approvedAt : Option Instant
  approvedBy : Option String
  createdAt : Instant
  updatedAt : Instant
deriving DecidableEq, Repr

instance : Owned AttendanceRecord := ⟨AttendanceRecord.organization⟩

namespace AttendanceRecord

/-- The shift of a record that is not open. -/
def workInterval (r : AttendanceRecord) : Option WorkInterval :=
  r.checkOut.map fun checkOut =>
    { checkIn := r.checkIn
      checkOut
      breakMinutes := r.breakMinutes
      isHoliday := r.isHoliday }

end AttendanceRecord

/-- What is to be different in a record; what is missing stays. -/
structure RecordChanges where
  checkIn : Option ZonedTime
  checkOut : Option ZonedTime
  breakMinutes : Option Int
  isHoliday : Option Bool
  notes : Option String
deriving DecidableEq, Repr

namespace AttendanceRecord

/-- The record with changes. -/
def amend (r : AttendanceRecord) (c : RecordChanges) (now : Instant) :
    AttendanceRecord :=
  { r with
    checkIn := c.checkIn.getD r.checkIn
    checkOut := c.checkOut.or r.checkOut
    breakMinutes := c.breakMinutes.getD r.breakMinutes
    isHoliday := c.isHoliday.getD r.isHoliday
    notes := c.notes.or r.notes
    updatedAt := now }

/-- The record approved by an actor. -/
def approve (r : AttendanceRecord) (a : Actor) (now : Instant) :
    AttendanceRecord :=
  { r with
    state := .approved
    approvedAt := some now
    approvedBy := some a.id
    updatedAt := now }

/-- The record rejected. -/
def reject (r : AttendanceRecord) (now : Instant) : AttendanceRecord :=
  { r with
    state := .rejected
    approvedAt := none
    approvedBy := none
    updatedAt := now }

end AttendanceRecord

/-- What the records of an employee come to. -/
structure AttendanceAggregate where
  employee : String
  recordCount : Nat
  totals : PayableMinutes
deriving DecidableEq, Repr

namespace AttendanceAggregate

/-- What the closed records of a list come to, by employee in the order of
their ids. -/
def ofRecords (records : List AttendanceRecord) :
    Except Overflow (List AttendanceAggregate) := do
  let closed := records.filterMap fun r =>
    r.workInterval.map fun w => (r.employee, w)
  let shifts ← closed.mapM fun s => return (s.1, ← s.2.split)
  let employees := sortBy (· ≤ ·) (shifts.map (·.1)).eraseDups
  return employees.map fun employee =>
    let own := shifts.filter (·.1 == employee)
    { employee
      recordCount := own.length
      totals := PayableMinutes.sum (own.map (·.2)) }

end AttendanceAggregate
end Workforce
