import Workforce.Service.Context
import Workforce.Store.Attendance
import Workforce.Wire.Attendance

/-!
Operations on attendance records.
-/

namespace Workforce.Service

open Wire

/-- A shift to be recorded. -/
structure NewRecord where
  employee : String
  checkIn : ZonedTime
  checkOut : Option ZonedTime
  breakMinutes : Int
  isHoliday : Bool
  notes : Option String
deriving DecidableEq, Repr

/-- Which records to list. -/
structure RecordQuery where
  period : Period
  employee : Option String
  state : Option AttendanceState
deriving DecidableEq, Repr

/-- A new record, which is pending. -/
def NewRecord.toRecord (r : NewRecord) (id : String)
    (organization : Option String) (now : Instant) : AttendanceRecord :=
  { id
    employee := r.employee
    organization
    checkIn := r.checkIn
    checkOut := r.checkOut
    breakMinutes := r.breakMinutes
    isHoliday := r.isHoliday
    notes := r.notes
    state := .pending
    approvedAt := none
    approvedBy := none
    createdAt := now
    updatedAt := now }

/-- Passes a shift that ends, if at all, after it starts. -/
def ensureShift (checkIn : ZonedTime) (checkOut : Option ZonedTime)
    (breakMinutes : Int) (notes : Option String) : Outcome Unit := do
  Outcome.ensure (checkOut.all fun t => checkIn.instant < t.instant)
    (.validation "checkOutAt must be after checkInAt")
  ensureBreakAndNotes breakMinutes notes

/-- The record, if there is one within the scope. -/
def requireRecord (st : Store) (scope : TenantScope) (id : String) :
    Outcome AttendanceRecord :=
  scope.visible (st.attendance.get? id) "attendance record not found"

/-- Passes a record that is pending. -/
def ensurePendingRecord (r : AttendanceRecord) (message : String) :
    Outcome Unit :=
  Outcome.ensure (r.state = .pending) (.conflict message)

/-- A notice about a record. -/
def recordNotice (ctx : Context) (actor : Actor) (action : Action)
    (payload : AttendanceRecord → Json) (r : AttendanceRecord) : Notice :=
  ctx.notice actor action (some r.id) r.organization (some (payload r))

/-- Records a shift of an employee. -/
def createRecord (ctx : Context) (st : Store) (input : NewRecord) :
    Outcome (Effect AttendanceRecord) := do
  let (actor, scope) ← ctx.authorize
  actor.requireAny OwnOrAny.recordWrite.permissions "insufficient permissions"
  ensureShift input.checkIn input.checkOut input.breakMinutes input.notes
  let employee ← requireEmployee st scope input.employee
  OwnOrAny.recordWrite.require actor employee.id "insufficient permissions"
  let r := input.toRecord (ctx.fresh .record) employee.organization ctx.now
  let payload (r : AttendanceRecord) : Json :=
    .obj [("employeeId", encode r.employee)]
  return .told (st.insertRecord r)
    (recordNotice ctx actor .attendanceRecorded payload r) r

/-- Corrects a pending record. -/
def updateRecord (ctx : Context) (st : Store) (id : String)
    (changes : RecordChanges) : Outcome (Effect AttendanceRecord) := do
  let (actor, scope) ← ctx.authorize
  actor.requireAny OwnOrAny.recordWrite.permissions "insufficient permissions"
  let existing ← requireRecord st scope id
  OwnOrAny.recordWrite.require actor existing.employee
    "insufficient permissions"
  ensurePendingRecord existing "only pending attendance can be edited"
  let r := existing.amend changes ctx.now
  ensureShift r.checkIn r.checkOut r.breakMinutes r.notes
  let payload (_ : AttendanceRecord) : Json := .obj
    [("checkInAt", encode changes.checkIn),
      ("checkOutAt", encode changes.checkOut),
      ("breakMinutes", encode changes.breakMinutes),
      ("isHoliday", encode changes.isHoliday),
      ("notes", encode changes.notes)]
  return .ofChange (st.updatePendingRecord r)
    (recordNotice ctx actor .attendanceCorrected payload)

/-- Approves a pending record. -/
def approveRecord (ctx : Context) (st : Store) (id : String) :
    Outcome (Effect AttendanceRecord) := do
  let (actor, scope) ← ctx.authorize
  actor.require .recordApprove "approval requires admin or manager role"
  let existing ← requireRecord st scope id
  ensurePendingRecord existing "only pending attendance can be approved"
  let payload (r : AttendanceRecord) : Json := .obj
    [("employeeId", encode r.employee), ("approvedAt", encode r.approvedAt)]
  return .ofChange (st.updatePendingRecord (existing.approve actor ctx.now))
    (recordNotice ctx actor .attendanceApproved payload)

/-- Rejects a pending record. -/
def rejectRecord (ctx : Context) (st : Store) (id : String)
    (reason : Option String) : Outcome (Effect AttendanceRecord) := do
  let (actor, scope) ← ctx.authorize
  actor.require .recordReject "rejection requires admin or manager role"
  let existing ← requireRecord st scope id
  ensurePendingRecord existing "only pending attendance can be rejected"
  let payload (r : AttendanceRecord) : Json := .obj
    [("employeeId", encode r.employee), ("reason", encode reason)]
  return .ofChange (st.updatePendingRecord (existing.reject ctx.now))
    (recordNotice ctx actor .attendanceRejected payload)

/-- The records of a period. -/
def listRecords (ctx : Context) (st : Store) (query : RecordQuery) :
    Outcome (List AttendanceRecord) := do
  let (actor, scope) ← ctx.authorize
  ensurePeriod query.period
  let employee ← ListPermissions.records.filter actor query.employee
  return st.listRecords query.period ⟨scope.organization?, employee⟩
    query.state

/-- What the approved records of a period come to, by employee. -/
def listAggregates (ctx : Context) (st : Store) (query : RecordQuery) :
    Outcome (List AttendanceAggregate) := do
  let (actor, scope) ← ctx.authorize
  ensurePeriod query.period
  let employee ← ListPermissions.aggregates.filter actor query.employee
  Outcome.ofAmount (AttendanceAggregate.ofRecords
    (st.listRecords query.period ⟨scope.organization?, employee⟩
      (some .approved)))

end Workforce.Service
