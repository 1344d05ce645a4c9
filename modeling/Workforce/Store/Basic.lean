import Workforce.Activity
import Workforce.Attendance.Record
import Workforce.Leave.Balance
import Workforce.Leave.Request
import Workforce.Pay.Run
import Workforce.People
import Workforce.Schedule
import Workforce.Sorting
import Workforce.Store.Table

/-!
The store: a table for each kind of entity, and the logs of decisions, audit
entries and events, which only grow.
-/

namespace Workforce

instance : Keyed AttendanceRecord := ⟨AttendanceRecord.id⟩
instance : Keyed LeaveRequest := ⟨LeaveRequest.id⟩
instance : Keyed LeaveBalance := ⟨LeaveBalance.employee⟩
instance : Keyed WorkSchedule := ⟨WorkSchedule.id⟩
instance : Keyed DeductionProfile := ⟨DeductionProfile.id⟩
instance : Keyed PayrollRun := ⟨PayrollRun.id⟩
instance : Keyed Employee := ⟨Employee.id⟩
instance : Keyed Organization := ⟨Organization.id⟩

/-- Everything that is kept. Ledgers are known by their employees. -/
structure Store where
  attendance : Table AttendanceRecord
  leave : Table LeaveRequest
  decisions : List LeaveDecision
  balances : Table LeaveBalance
  schedules : Table WorkSchedule
  profiles : Table DeductionProfile
  payroll : Table PayrollRun
  employees : Table Employee
  organizations : Table Organization
  audit : List AuditEntry
  events : List DomainEvent

/-- A store with nothing in it. -/
def Store.empty : Store :=
  { attendance := .empty
    leave := .empty
    decisions := []
    balances := .empty
    schedules := .empty
    profiles := .empty
    payroll := .empty
    employees := .empty
    organizations := .empty
    audit := []
    events := [] }

instance : Inhabited Store := ⟨Store.empty⟩

/-! ## Lists -/

/-- A closed stretch of time. -/
structure Period where
  start : Instant
  finish : Instant
deriving DecidableEq, Repr

namespace Period

/-- Whether an instant lies within a period, its ends included. -/
def holds (p : Period) (t : Instant) : Bool :=
  p.start ≤ t && t ≤ p.finish

/-- Whether the time from `start` to `finish` meets a period. -/
def meets (p : Period) (start finish : Instant) : Bool :=
  start ≤ p.finish && p.start ≤ finish

end Period

/-- An organization and an employee to whom a list is confined, if any. -/
structure OwnerFilter where
  organization : Option String
  employee : Option String
deriving DecidableEq, Repr

/-- Whether a value is the one asked for, if one is. -/
def wanted {α : Type} [BEq α] (asked : Option α) (value : α) : Bool :=
  asked.all (· == value)

/-- Whether an owner is the one asked for, if one is. -/
def wantedOwner (asked owner : Option String) : Bool :=
  asked.all fun id => owner == some id

/-- Whether what an employee has in an organization passes a filter. -/
def OwnerFilter.passes (f : OwnerFilter) (organization : Option String)
    (employee : String) : Bool :=
  wantedOwner f.organization organization && wanted f.employee employee

/-- The order by an instant and, where that is equal, by key. -/
def byTime {α : Type} [Keyed α] (time : α → Instant) (a b : α) : Bool :=
  time a < time b || (time a == time b && Keyed.key a ≤ Keyed.key b)

/-- The order by an instant, latest first, and then by key. -/
def byTimeDown {α : Type} [Keyed α] (time : α → Instant) (a b : α) : Bool :=
  time b < time a || (time a == time b && Keyed.key a ≤ Keyed.key b)

/-- The order by key. -/
def byKey {α : Type} [Keyed α] (a b : α) : Bool :=
  Keyed.key a ≤ Keyed.key b

end Workforce
