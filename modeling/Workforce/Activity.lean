import Workforce.Access.Actor
import Workforce.Json.Basic
import Workforce.Text.Named
import Workforce.Time.Instant

/-!
Activity: the audit entries and events that tell of what was done.
-/

namespace Workforce

/-- What can be told of. -/
inductive Action where
  | attendanceRecorded
  | attendanceCorrected
  | attendanceApproved
  | attendanceRejected
  | leaveRequested
  | leaveUpdated
  | leaveApproved
  | leaveRejected
  | leaveCanceled
  | leaveBalanceRead
  | leaveAccrualSettled
  | scheduleAssigned
  | payrollCalculated
  | payrollDeductionsCalculated
  | payrollPreviewDisabled
  | payrollPreviewConflict
  | payrollConfirmed
  | deductionProfileRead
  | deductionProfileUpdated
  | organizationCreated
  | employeeCreated
  | employeeUpdated
deriving DecidableEq, Repr

namespace Action

/-- The name of an action in an audit entry. -/
def name : Action → String
  | attendanceRecorded => "attendance.recorded"
  | attendanceCorrected => "attendance.corrected"
  | attendanceApproved => "attendance.approved"
  | attendanceRejected => "attendance.rejected"
  | leaveRequested => "leave.requested"
  | leaveUpdated => "leave.updated"
  | leaveApproved => "leave.approved"
  | leaveRejected => "leave.rejected"
  | leaveCanceled => "leave.canceled"
  | leaveBalanceRead => "leave.balance_read"
  | leaveAccrualSettled => "leave.accrual_settled"
  | scheduleAssigned => "scheduling.schedule.assigned"
  | payrollCalculated => "payroll.calculated"
  | payrollDeductionsCalculated => "payroll.deductions_calculated"
  | payrollPreviewDisabled => "payroll.deductions.preview_disabled"
  | payrollPreviewConflict => "payroll.deductions.preview_conflict"
  | payrollConfirmed => "payroll.confirmed"
  | deductionProfileRead => "payroll.deduction_profile.read"
  | deductionProfileUpdated => "payroll.deduction_profile.updated"
  | organizationCreated => "organization.created"
  | employeeCreated => "employee.created"
  | employeeUpdated => "employee.profile.updated"

/-- The name and version of the event that tells of an action, if one does. -/
def eventName : Action → Option String
  | attendanceRecorded => some "attendance.recorded.v1"
  | attendanceCorrected => some "attendance.corrected.v1"
  | attendanceApproved => some "attendance.approved.v1"
  | attendanceRejected => some "attendance.rejected.v1"
  | leaveRequested => some "leave.requested.v1"
  | leaveUpdated => none
  | leaveApproved => some "leave.approved.v1"
  | leaveRejected => some "leave.rejected.v1"
  | leaveCanceled => some "leave.canceled.v1"
  | leaveBalanceRead => none
  | leaveAccrualSettled => some "leave.accrual.settled.v1"
  | scheduleAssigned => some "scheduling.schedule.assigned.v1"
  | payrollCalculated => some "payroll.calculated.v1"
  | payrollDeductionsCalculated => some "payroll.deductions.calculated.v1"
  | payrollPreviewDisabled => none
  | payrollPreviewConflict => none
  | payrollConfirmed => some "payroll.confirmed.v1"
  | deductionProfileRead => none
  | deductionProfileUpdated => some "payroll.deduction_profile.updated.v1"
  | organizationCreated => some "organization.created.v1"
  | employeeCreated => some "employee.created.v1"
  | employeeUpdated => some "employee.profile.updated.v1"

/-- The kind of entity that an action is about. -/
def entityType : Action → String
  | attendanceRecorded => "AttendanceRecord"
  | attendanceCorrected => "AttendanceRecord"
  | attendanceApproved => "AttendanceRecord"
  | attendanceRejected => "AttendanceRecord"
  | leaveRequested => "LeaveRequest"
  | leaveUpdated => "LeaveRequest"
  | leaveApproved => "LeaveRequest"
  | leaveRejected => "LeaveRequest"
  | leaveCanceled => "LeaveRequest"
  | leaveBalanceRead => "LeaveBalanceProjection"
  | leaveAccrualSettled => "LeaveBalanceProjection"
  | scheduleAssigned => "WorkSchedule"
  | payrollCalculated => "PayrollRun"
  | payrollDeductionsCalculated => "PayrollRun"
  | payrollPreviewDisabled => "PayrollRun"
  | payrollPreviewConflict => "PayrollRun"
  | payrollConfirmed => "PayrollRun"
  | deductionProfileRead => "DeductionProfile"
  | deductionProfileUpdated => "DeductionProfile"
  | organizationCreated => "Organization"
  | employeeCreated => "Employee"
  | employeeUpdated => "Employee"

end Action

/-- What an operation has to tell: who did what and when, the entity it was
about and that entity's owner, and details. -/
structure Notice where
  action : Action
  actor : Actor
  entity : Option String
  organization : Option String
  payload : Option Json
  time : Instant

/-- A line of the audit log. -/
structure AuditEntry where
  action : String
  entityType : String
  entity : Option String
  organization : Option String
  role : Role
  actor : String
  payload : Option Json
  recordedAt : Instant

/-- Something that happened, for whoever follows the events. -/
structure DomainEvent where
  name : String
  occurredAt : Instant
  entityType : String
  entity : Option String
  role : Option Role
  actor : Option String
  payload : Option Json

namespace Notice

/-- The audit entry that a notice leaves. -/
def auditEntry (n : Notice) : AuditEntry :=
  { action := n.action.name
    entityType := n.action.entityType
    entity := n.entity
    organization := n.organization
    role := n.actor.role
    actor := n.actor.id
    payload := n.payload
    recordedAt := n.time }

/-- The event that a notice is published as, if its action has one. -/
def event (n : Notice) : Option DomainEvent :=
  n.action.eventName.map fun name =>
    { name
      occurredAt := n.time
      entityType := n.action.entityType
      entity := n.entity
      role := some n.actor.role
      actor := some n.actor.id
      payload := n.payload }

end Notice
end Workforce
