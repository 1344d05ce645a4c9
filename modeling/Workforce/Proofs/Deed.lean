import Workforce.Proofs.Outcome
import Workforce.Proofs.Write
import Workforce.Service.Call

/-!
# What calls come to

`Call.Does` lists the deeds: for each operation that can change or record
something, the checks it has passed, the write it makes, what it tells and what
it replies.  `Call.effect_comes` shows that a call which is not such a deed
leaves the store as it is: it fails, it only looks something up, or it is a
preview that is refused and says so.  One deed can stop half-way: a shift that
is assigned stays so, untold, if its minutes cannot be divided.

Statements about all operations split on these cases and need not look at the
operations themselves.
-/

namespace Workforce.Call

open Service

/-- The ledger that an employee's days are kept in, as an operation finds or
makes it. -/
def openedLedger (ctx : Context) (st : Store) (employee : String)
    (organization : Option String) : LeaveBalance :=
  st.ledger employee organization ctx.config.leave.grantedDays ctx.now

/-- The ledger after an approval of a request. -/
def chargedLedger (ctx : Context) (st : Store) (r : LeaveRequest) :
    LeaveBalance :=
  (openedLedger ctx st r.employee r.organization).use r.days ctx.now

theorem openedLedger_employee (ctx : Context) (st : Store)
    (employee : String) (organization : Option String) :
    (openedLedger ctx st employee organization).employee = employee :=
  st.ledger_employee employee organization ctx.config.leave.grantedDays
    ctx.now

theorem chargedLedger_employee (ctx : Context) (st : Store)
    (r : LeaveRequest) : (chargedLedger ctx st r).employee = r.employee :=
  openedLedger_employee ctx st r.employee r.organization

/-- The terms of a settlement, as far as they are given, and those of the
configuration. -/
def settlementTerms (ctx : Context) (input : AccrualInput) : Settlement :=
  { year := input.year
    annualGrantDays :=
      input.annualGrantDays.getD ctx.config.leave.annualGrantDays
    carryOverCapDays :=
      input.carryOverCapDays.getD ctx.config.leave.carryOverCapDays }

/-- A run with the deductions that were made. -/
def netRun (ctx : Context) (scope : TenantScope) (input : PreviewInput)
    (priced : PricedPeriod) (summary : DeductionSummary) : PayrollRun :=
  { priced.toRun ctx scope input with
    deductions := some summary
    netPay := some (summary.netPay priced.breakdown.grossPay) }

/-- The deeds of an actor within a scope: what a call writes, tells and
replies when it passes its checks. -/
inductive Does (ctx : Context) (st : Store) (actor : Actor)
    (scope : TenantScope) : Call → Write → Notice → Reply → Prop
  | createOrganization {name : String} {payload : Option Json}
      (permitted : actor.may .organizationsManage = true)
      (platform : scope.isEverything = true)
      (named : Text.trim name ≠ "")
      (new : st.organizations.get? (ctx.fresh .organization) = none) :
      Does ctx st actor scope (.createOrganization name)
        { organization :=
            some ⟨ctx.fresh .organization, Text.trim name, ctx.now⟩ }
        (ctx.notice actor .organizationCreated
          (some (ctx.fresh .organization)) (some (ctx.fresh .organization))
          payload)
        (.organization ⟨ctx.fresh .organization, Text.trim name, ctx.now⟩)
  | createEmployee {input : NewEmployee} {organization : Option String}
      {e : Employee} {payload : Option Json}
      (permitted : actor.may .employeesManage = true)
      (named : Text.trim input.id ≠ "")
      (placed : placement st scope input.organization = .ok organization)
      (made : e =
        { id := Text.trim input.id
          organization
          name := input.name
          email := input.email
          active := input.active.getD true
          createdAt := ctx.now
          updatedAt := ctx.now })
      (new : st.employees.get? e.id = none) :
      Does ctx st actor scope (.createEmployee input)
        { employee := some e }
        (ctx.notice actor .employeeCreated (some e.id) e.organization
          payload)
        (.employee e)
  | updateEmployee {id : String} {changes : EmployeeChanges}
      {existing : Employee} {organization : Option String}
      {payload : Option Json}
      (permitted : actor.may .employeesManage = true)
      (found : st.employees.get? id = some existing)
      (visible : scope.permits existing.organization = true)
      (placed : changes.organization = none ∧
          organization = existing.organization ∨
        changes.organization.isSome = true ∧
          placement st scope changes.organization = .ok organization) :
      Does ctx st actor scope (.updateEmployee id changes)
        { employee := some (changes.apply existing organization ctx.now) }
        (ctx.notice actor .employeeUpdated (some existing.id) organization
          payload)
        (.employee (changes.apply existing organization ctx.now))
  | createRecord {input : NewRecord} {employee : Employee}
      {r : AttendanceRecord} {payload : Option Json}
      (permitted : actor.mayAny OwnOrAny.recordWrite.permissions = true)
      (shift : ensureShift input.checkIn input.checkOut input.breakMinutes
        input.notes = .ok ())
      (found : st.employees.get? input.employee = some employee)
      (visible : scope.permits employee.organization = true)
      (own : OwnOrAny.recordWrite.admits actor employee.id = true)
      (made : r =
        input.toRecord (ctx.fresh .record) employee.organization ctx.now) :
      Does ctx st actor scope (.createRecord input)
        { record := some r }
        (ctx.notice actor .attendanceRecorded (some r.id) r.organization
          payload)
        (.record r)
  | updateRecord {id : String} {changes : RecordChanges}
      {existing : AttendanceRecord} {payload : Option Json}
      (permitted : actor.mayAny OwnOrAny.recordWrite.permissions = true)
      (found : st.attendance.get? id = some existing)
      (visible : scope.permits existing.organization = true)
      (own : OwnOrAny.recordWrite.admits actor existing.employee = true)
      (pending : existing.state = .pending)
      (shift : ensureShift (existing.amend changes ctx.now).checkIn
        (existing.amend changes ctx.now).checkOut
        (existing.amend changes ctx.now).breakMinutes
        (existing.amend changes ctx.now).notes = .ok ()) :
      Does ctx st actor scope (.updateRecord id changes)
        { record := some (existing.amend changes ctx.now) }
        (ctx.notice actor .attendanceCorrected (some existing.id)
          existing.organization payload)
        (.record (existing.amend changes ctx.now))
  | approveRecord {id : String} {existing : AttendanceRecord}
      {payload : Option Json}
      (permitted : actor.may .recordApprove = true)
      (found : st.attendance.get? id = some existing)
      (visible : scope.permits existing.organization = true)
      (pending : existing.state = .pending) :
      Does ctx st actor scope (.approveRecord id)
        { record := some (existing.approve actor ctx.now) }
        (ctx.notice actor .attendanceApproved (some existing.id)
          existing.organization payload)
        (.record (existing.approve actor ctx.now))
  | rejectRecord {id : String} {reason : Option String}
      {existing : AttendanceRecord} {payload : Option Json}
      (permitted : actor.may .recordReject = true)
      (found : st.attendance.get? id = some existing)
      (visible : scope.permits existing.organization = true)
      (pending : existing.state = .pending) :
      Does ctx st actor scope (.rejectRecord id reason)
        { record := some (existing.reject ctx.now) }
        (ctx.notice actor .attendanceRejected (some existing.id)
          existing.organization payload)
        (.record (existing.reject ctx.now))
  | createLeave {input : NewLeave} {employee : Employee} {days : Int}
      {r : LeaveRequest} {payload : Option Json}
      (permitted : actor.mayAny OwnOrAny.leaveWrite.permissions = true)
      (span : leaveDays input.start.instant input.finish.instant = .ok days)
      (found : st.employees.get? input.employee = some employee)
      (visible : scope.permits employee.organization = true)
      (own : OwnOrAny.leaveWrite.admits actor employee.id = true)
      (made : r =
        input.toRequest (ctx.fresh .leave) employee days ctx.now)
      (free : st.overlappingLeave r.employee r.dayRange none = []) :
      Does ctx st actor scope (.createLeave input)
        { leave := some r }
        (ctx.notice actor .leaveRequested (some r.id) r.organization payload)
        (.leave r)
  | updateLeave {id : String} {changes : LeaveChanges}
      {existing r : LeaveRequest} {days : Int} {payload : Option Json}
      (permitted : actor.mayAny OwnOrAny.leaveWrite.permissions = true)
      (found : st.leave.get? id = some existing)
      (visible : scope.permits existing.organization = true)
      (pending : existing.state = .pending)
      (own : OwnOrAny.leaveWrite.admits actor existing.employee = true)
      (made : r = existing.amend changes days ctx.now)
      (span : leaveDays r.start.instant r.finish.instant = .ok days)
      (free : st.overlappingLeave r.employee r.dayRange (some r.id) = []) :
      Does ctx st actor scope (.updateLeave id changes)
        { leave := some r }
        (ctx.notice actor .leaveUpdated (some r.id) r.organization payload)
        (.leave r)
  | approveLeave {id : String} {existing : LeaveRequest}
      {payload : Option Json}
      (permitted : actor.may .leaveApprove = true)
      (found : st.leave.get? id = some existing)
      (visible : scope.permits existing.organization = true)
      (pending : existing.state = .pending) :
      Does ctx st actor scope (.approveLeave id)
        { leave := some (existing.decide actor .approved none ctx.now)
          decision := some (existing.decision actor .approved none ctx.now)
          balance := some (chargedLedger ctx st existing) }
        (ctx.notice actor .leaveApproved (some existing.id)
          existing.organization payload)
        (.approval ⟨existing.decide actor .approved none ctx.now,
          chargedLedger ctx st existing⟩)
  | rejectLeave {id reason : String} {existing : LeaveRequest}
      {payload : Option Json}
      (permitted : actor.may .leaveReject = true)
      (reasoned : Text.trim reason ≠ "")
      (found : st.leave.get? id = some existing)
      (visible : scope.permits existing.organization = true)
      (pending : existing.state = .pending) :
      Does ctx st actor scope (.rejectLeave id reason)
        { leave := some (existing.decide actor .rejected
            (some (Text.trim reason)) ctx.now)
          decision := some (existing.decision actor .rejected
            (some (Text.trim reason)) ctx.now) }
        (ctx.notice actor .leaveRejected (some existing.id)
          existing.organization payload)
        (.leave (existing.decide actor .rejected (some (Text.trim reason))
          ctx.now))
  | cancelLeave {id : String} {reason : Option String}
      {existing : LeaveRequest} {payload : Option Json}
      (permitted : actor.mayAny OwnOrAny.leaveWrite.permissions = true)
      (found : st.leave.get? id = some existing)
      (visible : scope.permits existing.organization = true)
      (pending : existing.state = .pending)
      (own : OwnOrAny.leaveWrite.admits actor existing.employee = true) :
      Does ctx st actor scope (.cancelLeave id reason)
        { leave := some (existing.decide actor .canceled reason ctx.now)
          decision :=
            some (existing.decision actor .canceled reason ctx.now) }
        (ctx.notice actor .leaveCanceled (some existing.id)
          existing.organization payload)
        (.leave (existing.decide actor .canceled reason ctx.now))
  | readBalance {id : String} {employee : Employee}
      (permitted : actor.mayAny OwnOrAny.balanceRead.permissions = true)
      (found : st.employees.get? id = some employee)
      (visible : scope.permits employee.organization = true)
      (own : OwnOrAny.balanceRead.admits actor id = true) :
      Does ctx st actor scope (.readBalance id)
        { balance :=
            some (openedLedger ctx st employee.id employee.organization) }
        (ctx.notice actor .leaveBalanceRead (some employee.id)
          employee.organization none)
        (.balance (openedLedger ctx st employee.id employee.organization))
  | settleAccrual {input : AccrualInput} {employee : Employee}
      {b : LeaveBalance} {payload : Option Json}
      (permitted : actor.may .accrualSettle = true)
      (terms : Settlement.of (settlementTerms ctx input).year
        (settlementTerms ctx input).annualGrantDays
        (settlementTerms ctx input).carryOverCapDays =
          .ok (settlementTerms ctx input))
      (found : st.employees.get? input.employee = some employee)
      (visible : scope.permits employee.organization = true)
      (settled : (openedLedger ctx st employee.id
        employee.organization).settle (settlementTerms ctx input) ctx.now =
          .ok b) :
      Does ctx st actor scope (.settleAccrual input)
        { balance := some b }
        (ctx.notice actor .leaveAccrualSettled (some employee.id)
          employee.organization payload)
        (.balance b)
  | createSchedule {input : NewSchedule} {employee : Employee}
      {s : WorkSchedule} {payload : Option Json}
      (permitted : actor.may .scheduleWriteAny = true)
      (ordered : input.start.instant < input.finish.instant)
      (bounded : ensureBreakAndNotes input.breakMinutes input.notes = .ok ())
      (found : st.employees.get? input.employee = some employee)
      (visible : scope.permits employee.organization = true)
      (made : s =
        input.toSchedule (ctx.fresh .schedule) employee ctx.now)
      (free : st.overlappingSchedules s.employee s.start.instant
        s.finish.instant = []) :
      Does ctx st actor scope (.createSchedule input)
        { schedule := some s }
        (ctx.notice actor .scheduleAssigned (some s.id) s.organization
          payload)
        (.schedule s)
  | previewPayroll {input : PreviewInput} {priced : PricedPeriod}
      {payload : Option Json}
      (permitted : actor.may .runPreview = true)
      (price : pricePeriod ctx st scope input = .ok priced) :
      Does ctx st actor scope (.previewPayroll input)
        { run := some (priced.toRun ctx scope input) }
        (ctx.notice actor .payrollCalculated (some (ctx.fresh .run))
          scope.organization? payload)
        (.preview (priced.toPreview (priced.toRun ctx scope input)))
  | previewPayrollWithDeductions {input : PreviewInput}
      {request : DeductionRequest} {priced : PricedPeriod}
      {summary : DeductionSummary} {payload : Option Json}
      (permitted : actor.may .runPreview = true)
      (enabled : ctx.config.features.payrollDeductions = true)
      (profiles : request.mode = .profile →
        ctx.config.features.deductionProfile = true)
      (price : pricePeriod ctx st scope input = .ok priced)
      (resolved : resolveDeductions priced.breakdown.grossPay request
        ((request.profileId.bind st.profiles.get?).filter
          fun p => scope.permits p.organization) = .ok summary) :
      Does ctx st actor scope (.previewPayrollWithDeductions input request)
        { run := some (netRun ctx scope input priced summary) }
        (ctx.notice actor .payrollDeductionsCalculated
          (some (ctx.fresh .run)) scope.organization? payload)
        (.preview (priced.toPreview (netRun ctx scope input priced summary)))
  | confirmRun {id : String} {existing : PayrollRun} {payload : Option Json}
      (permitted : actor.may .runConfirm = true)
      (found : st.payroll.get? id = some existing)
      (visible : scope.permits existing.organization = true)
      (previewed : existing.state = .previewed) :
      Does ctx st actor scope (.confirmRun id)
        { run := some (Store.confirmedRun existing actor.id ctx.now) }
        (ctx.notice actor .payrollConfirmed (some existing.id)
          existing.organization payload)
        (.run (Store.confirmedRun existing actor.id ctx.now))
  | readProfile {id : String} {p : DeductionProfile} {payload : Option Json}
      (permitted : actor.may .profileRead = true)
      (found : st.profiles.get? id = some p)
      (visible : scope.permits p.organization = true) :
      Does ctx st actor scope (.readProfile id) {}
        (ctx.notice actor .deductionProfileRead (some p.id) p.organization
          payload)
        (.profile p)
  | upsertProfile {id : String} {input : ProfileInput}
      {p : DeductionProfile} {payload : Option Json}
      (permitted : actor.may .profileWrite = true)
      (valid : ensureProfile id input = .ok ())
      (within : ∀ old, st.profiles.get? (Text.trim id) = some old →
        scope.permits old.organization = true)
      (made : p = st.drafted (input.toDraft id scope) ctx.now) :
      Does ctx st actor scope (.upsertProfile id input)
        { profile := some p }
        (ctx.notice actor .deductionProfileUpdated (some p.id) p.organization
          payload)
        (.profile p)

/-- Whether a call only looks at the store: lists, and lookups of people. -/
def looksOnly : Call → Bool
  | listOrganizations => true
  | getOrganization _ => true
  | listEmployees _ => true
  | getEmployee _ => true
  | listRecords _ => true
  | listAggregates _ => true
  | listLeave _ => true
  | listDecisions _ => true
  | listSchedules _ => true
  | listRuns _ _ => true
  | _ => false

/-- Whether a call that fails like this has stopped half-way: a shift is
assigned, but its minutes cannot be divided. -/
def haltsWith : Call → Failure → Bool
  | createSchedule _, .overflow _ => true
  | _, _ => false

/-- What a call can come to: nothing is changed unless something is done, if
only half-way. -/
inductive Comes (ctx : Context) (st : Store) (c : Call) :
    Effect Reply → Prop
  | failed (failure : Failure) (whole : c.haltsWith failure = false) :
      Comes ctx st c (.answer st (.error failure))
  | looked (reply : Reply) (only : c.looksOnly = true) :
      Comes ctx st c (.answer st (.ok reply))
  | warned {actor : Actor} {scope : TenantScope} {input : PreviewInput}
      {request : DeductionRequest} {action : Action} {fault : Fault}
      {payload : Option Json}
      (authorized : ctx.authorize = .ok (actor, scope))
      (call : c = .previewPayrollWithDeductions input request)
      (conflict : fault.isConflict = true)
      (silent : action.eventName = none) :
      Comes ctx st c
        (.refused st
          (ctx.notice actor action none scope.organization? payload) fault)
  | done {actor : Actor} {scope : TenantScope} {w : Write} {notice : Notice}
      {reply : Reply}
      (authorized : ctx.authorize = .ok (actor, scope))
      (does : c.Does ctx st actor scope w notice reply) :
      Comes ctx st c (.told (st.write w) notice reply)
  | halted {actor : Actor} {scope : TenantScope} {input : NewSchedule}
      {s : WorkSchedule} {notice : Notice} {cause : Overflow}
      (authorized : ctx.authorize = .ok (actor, scope))
      (call : c = .createSchedule input)
      (does : c.Does ctx st actor scope { schedule := some s } notice
        (.schedule s))
      (beyond : s.workInterval.split = .error cause) :
      Comes ctx st c
        (.answer (st.write { schedule := some s }) (.error (.overflow cause)))

end Workforce.Call
