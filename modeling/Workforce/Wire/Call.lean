import Workforce.Service.Call
import Workforce.Wire.Attendance
import Workforce.Wire.Leave
import Workforce.Wire.Pay

/-!
The wire form of operations: a name and arguments. An operation on one input
has the fields of the input for arguments.
-/

namespace Workforce.Wire

open Service

/-! ## Inputs -/

instance : Wire Period where
  encode p := .obj
    [("period_start", encode p.start), ("period_end", encode p.finish)]
  decode j := do
    let ms ← members? ["period_start", "period_end"] 2 j
    return ⟨← required ms "period_start", ← required ms "period_end"⟩

/-- A period given by two of the members of a query. -/
def periodOf (ms : List (String × Json)) : Option Period :=
  decode (.obj ms)

/-- A new employee. -/
def decodeNewEmployee (j : Json) : Option NewEmployee := do
  let ms ← members? ["id", "organization_id", "name", "email", "active"] 1 j
  return {
    id := ← required ms "id"
    organization := ← optional ms "organization_id"
    name := ← optional ms "name"
    email := ← optional ms "email"
    active := ← optional ms "active" }

/-- Changes to an employee. -/
def decodeEmployeeChanges (j : Json) : Option EmployeeChanges := do
  let ms ← members? ["organization_id", "name", "email", "active"] 0 j
  return {
    organization := ← optional ms "organization_id"
    name := ← optional ms "name"
    email := ← optional ms "email"
    active := ← optional ms "active" }

/-- A shift to be recorded. -/
def decodeNewRecord (j : Json) : Option NewRecord := do
  let ms ← members?
    ["employee_id", "check_in_at", "check_out_at", "break_minutes",
      "is_holiday", "notes"] 2 j
  return {
    employee := ← required ms "employee_id"
    checkIn := ← required ms "check_in_at"
    checkOut := ← optional ms "check_out_at"
    breakMinutes := ← defaulted ms "break_minutes" 0
    isHoliday := ← defaulted ms "is_holiday" false
    notes := ← optional ms "notes" }

/-- Changes to a record. -/
def decodeRecordChanges (j : Json) : Option RecordChanges := do
  let ms ← members?
    ["check_in_at", "check_out_at", "break_minutes", "is_holiday",
      "notes"] 0 j
  return {
    checkIn := ← optional ms "check_in_at"
    checkOut := ← optional ms "check_out_at"
    breakMinutes := ← optional ms "break_minutes"
    isHoliday := ← optional ms "is_holiday"
    notes := ← optional ms "notes" }

/-- A query of records. -/
def decodeRecordQuery (j : Json) : Option RecordQuery := do
  let ms ← members?
    ["period_start", "period_end", "employee_id", "state"] 2 j
  return {
    period := ← periodOf ms
    employee := ← optional ms "employee_id"
    state := ← optional ms "state" }

/-- A leave to be asked for; annual leave unless it is said otherwise. -/
def decodeNewLeave (j : Json) : Option NewLeave := do
  let ms ← members?
    ["employee_id", "leave_type", "start_date", "end_date", "reason"] 4 j
  return {
    employee := ← required ms "employee_id"
    kind := ← defaulted ms "leave_type" .annual
    start := ← required ms "start_date"
    finish := ← required ms "end_date"
    reason := ← optional ms "reason" }

/-- Changes to a request. -/
def decodeLeaveChanges (j : Json) : Option LeaveChanges := do
  let ms ← members? ["leave_type", "start_date", "end_date", "reason"] 0 j
  return {
    kind := ← optional ms "leave_type"
    start := ← optional ms "start_date"
    finish := ← optional ms "end_date"
    reason := ← optional ms "reason" }

/-- A query of requests. -/
def decodeLeaveQuery (j : Json) : Option LeaveQuery := do
  let ms ← members?
    ["period_start", "period_end", "employee_id", "state"] 2 j
  return {
    period := ← periodOf ms
    employee := ← optional ms "employee_id"
    state := ← optional ms "state" }

/-- A year to be settled. -/
def decodeAccrualInput (j : Json) : Option AccrualInput := do
  let ms ← members?
    ["employee_id", "year", "annual_grant_days", "carry_over_cap_days"] 2 j
  return {
    employee := ← required ms "employee_id"
    year := ← (ms.lookup "year").bind decodeInt32
    annualGrantDays := ← optional ms "annual_grant_days"
    carryOverCapDays := ← optional ms "carry_over_cap_days" }

/-- A shift to be assigned. -/
def decodeNewSchedule (j : Json) : Option NewSchedule := do
  let ms ← members?
    ["employee_id", "start_at", "end_at", "break_minutes", "is_holiday",
      "notes"] 3 j
  return {
    employee := ← required ms "employee_id"
    start := ← required ms "start_at"
    finish := ← required ms "end_at"
    breakMinutes := ← defaulted ms "break_minutes" 0
    isHoliday := ← defaulted ms "is_holiday" false
    notes := ← optional ms "notes" }

/-- A query of schedules. -/
def decodeScheduleQuery (j : Json) : Option ScheduleQuery := do
  let ms ← members? ["period_start", "period_end", "employee_id"] 2 j
  return {
    period := ← periodOf ms
    employee := ← optional ms "employee_id" }

/-- A period to be priced. -/
def decodePreviewInput (j : Json) : Option PreviewInput := do
  let ms ← members?
    ["period_start", "period_end", "employee_id", "hourly_rate_krw",
      "multipliers"] 2 j
  return {
    periodStart := ← required ms "period_start"
    periodEnd := ← required ms "period_end"
    employee := ← optional ms "employee_id"
    hourlyRate := ← optional ms "hourly_rate_krw"
    multipliers := ← optional ms "multipliers" }

/-- What a profile is to hold. -/
def decodeProfileInput (j : Json) : Option ProfileInput := do
  let ms ← members?
    ["name", "mode", "withholding_rate", "social_insurance_rate",
      "fixed_other_deduction_krw", "active"] 2 j
  return {
    name := ← required ms "name"
    mode := ← required ms "mode"
    withholdingRate := ← optional ms "withholding_rate"
    socialInsuranceRate := ← optional ms "social_insurance_rate"
    fixedOther := ← defaulted ms "fixed_other_deduction_krw" 0
    active := ← defaulted ms "active" true }

/-! ## Calls -/

/-- The members of arguments; any other value has none. -/
def argumentsOf : Json → List (String × Json)
  | .obj members => members
  | _ => []

/-- An argument that has a reader of its own. -/
def argument {α : Type} (ms : List (String × Json)) (name : String)
    (read : Json → Option α) : Option α :=
  (ms.lookup name).bind read

/-- The operation of this name with these arguments. -/
def decodeCall (name : String) (arguments : Json) : Option Call :=
  let ms := argumentsOf arguments
  match name with
  | "create_organization" =>
    return .createOrganization (← required ms "name")
  | "list_organizations" => some .listOrganizations
  | "get_organization" => return .getOrganization (← required ms "id")
  | "create_employee" =>
    return .createEmployee (← decodeNewEmployee arguments)
  | "list_employees" => return .listEmployees (← optional ms "active")
  | "get_employee" => return .getEmployee (← required ms "id")
  | "update_employee" =>
    return .updateEmployee (← required ms "id")
      (← argument ms "changes" decodeEmployeeChanges)
  | "create_attendance_record" =>
    return .createRecord (← decodeNewRecord arguments)
  | "update_attendance_record" =>
    return .updateRecord (← required ms "id")
      (← argument ms "changes" decodeRecordChanges)
  | "approve_attendance_record" =>
    return .approveRecord (← required ms "id")
  | "reject_attendance_record" =>
    return .rejectRecord (← required ms "id") (← optional ms "reason")
  | "list_attendance_records" =>
    return .listRecords (← decodeRecordQuery arguments)
  | "list_attendance_aggregates" =>
    return .listAggregates (← decodeRecordQuery arguments)
  | "create_leave_request" => return .createLeave (← decodeNewLeave arguments)
  | "update_leave_request" =>
    return .updateLeave (← required ms "id")
      (← argument ms "changes" decodeLeaveChanges)
  | "approve_leave_request" => return .approveLeave (← required ms "id")
  | "reject_leave_request" =>
    return .rejectLeave (← required ms "id") (← required ms "reason")
  | "cancel_leave_request" =>
    return .cancelLeave (← required ms "id") (← optional ms "reason")
  | "list_leave_requests" => return .listLeave (← decodeLeaveQuery arguments)
  | "list_leave_decisions" => return .listDecisions (← required ms "id")
  | "read_leave_balance" => return .readBalance (← required ms "employee_id")
  | "settle_leave_accrual" =>
    return .settleAccrual (← decodeAccrualInput arguments)
  | "create_work_schedule" =>
    return .createSchedule (← decodeNewSchedule arguments)
  | "list_work_schedules" =>
    return .listSchedules (← decodeScheduleQuery arguments)
  | "preview_payroll" =>
    return .previewPayroll (← decodePreviewInput arguments)
  | "preview_payroll_with_deductions" =>
    return .previewPayrollWithDeductions
      (← argument ms "input" decodePreviewInput) (← required ms "deductions")
  | "confirm_payroll_run" => return .confirmRun (← required ms "id")
  | "list_payroll_runs" =>
    return .listRuns (← optional ms "employee_id") (← optional ms "state")
  | "read_deduction_profile" => return .readProfile (← required ms "id")
  | "upsert_deduction_profile" =>
    return .upsertProfile (← required ms "id")
      (← argument ms "profile" decodeProfileInput)
  | _ => none

end Workforce.Wire
