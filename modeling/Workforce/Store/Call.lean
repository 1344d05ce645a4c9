import Workforce.Reply
import Workforce.Store.Attendance
import Workforce.Store.Leave
import Workforce.Store.Logs
import Workforce.Store.Payroll
import Workforce.Store.People

/-!
The store as callers see it who bring no permissions: what can be asked of it,
one request at a time.
-/

namespace Workforce

/-- A request to the store with its arguments. -/
inductive StoreCall where
  | insertRecord (r : AttendanceRecord)
  | findRecord (id : String)
  | updatePendingRecord (r : AttendanceRecord)
  | listRecords (period : Period) (owner : OwnerFilter)
      (state : Option AttendanceState)
  | insertLeave (r : LeaveRequest)
  | findLeave (id : String)
  | updatePendingLeave (r : LeaveRequest)
  | listLeave (period : Period) (owner : OwnerFilter)
      (state : Option LeaveState)
  | overlappingLeave (employee : String) (days : DayRange)
      (excluded : Option String)
  | recordDecision (r : LeaveRequest) (d : LeaveDecision)
  | approveLeave (r : LeaveRequest) (d : LeaveDecision) (grantedDays : Int)
  | listDecisions (request : String)
  | openBalance (employee : String) (organization : Option String)
      (grantedDays : Int)
  | settleBalance (employee : String) (organization : Option String)
      (year annualGrantDays carryOverCapDays grantedDays : Int)
  | findProfile (id : String)
  | upsertProfile (scope : TenantScope) (draft : Store.ProfileDraft)
  | insertSchedule (s : WorkSchedule)
  | overlappingSchedules (employee : String) (start finish : Instant)
  | listSchedules (period : Period) (owner : OwnerFilter)
  | insertRun (r : PayrollRun)
  | findRun (id : String)
  | confirmRun (id actor : String) (time : Instant)
  | listRuns (organization employee : Option String)
      (state : Option PayrollState)
  | insertEmployee (e : Employee)
  | findEmployee (id : String)
  | updateEmployee (e : Employee)
  | listEmployees (organization : Option String)
  | insertOrganization (o : Organization)
  | findOrganization (id : String)
  | listOrganizations (organization : Option String)
  | appendAudit (entry : AuditEntry)
  | auditEntries
  | events

namespace StoreCall

/-- A change of the store with the form of its reply. -/
def changed {α : Type} (change : Outcome α × Store) (reply : α → Reply) :
    Outcome Reply × Store :=
  (change.1.map reply, change.2)

/-- Carries a request out while the clock shows `now`. -/
def perform (now : Instant) (sinks : Sinks) (st : Store) :
    StoreCall → Outcome Reply × Store
  | insertRecord r => (.ok (.record r), st.insertRecord r)
  | findRecord id => (.ok (.found .record (st.attendance.get? id)), st)
  | updatePendingRecord r => changed (st.updatePendingRecord r) .record
  | listRecords period owner state =>
    (.ok (.records (st.listRecords period owner state)), st)
  | insertLeave r => (.ok (.leave r), st.insertLeave r)
  | findLeave id => (.ok (.found .leave (st.leave.get? id)), st)
  | updatePendingLeave r => changed (st.updatePendingLeave r) .leave
  | listLeave period owner state =>
    (.ok (.leaves (st.listLeave period owner state)), st)
  | overlappingLeave employee days excluded =>
    (.ok (.leaves (st.overlappingLeave employee days excluded)), st)
  | recordDecision r d => changed (st.recordDecision r d) .leave
  | approveLeave r d grantedDays =>
    changed (st.approveLeave r d grantedDays now) .approval
  | listDecisions request =>
    (.ok (.decisions (st.listDecisions request)), st)
  | openBalance employee organization grantedDays =>
    let (b, st) := st.openBalance employee organization grantedDays now
    (.ok (.balance b), st)
  | settleBalance employee organization year annualGrantDays
      carryOverCapDays grantedDays =>
    match Settlement.of year annualGrantDays carryOverCapDays with
    | .ok s =>
      changed (st.settleBalance employee organization s grantedDays now)
        .balance
    | .error e => (.error e, st)
  | findProfile id => (.ok (.found .profile (st.profiles.get? id)), st)
  | upsertProfile scope draft =>
    changed (st.upsertProfile scope draft now) .profile
  | insertSchedule s => changed (st.insertSchedule s) .schedule
  | overlappingSchedules employee start finish =>
    (.ok (.schedules (st.overlappingSchedules employee start finish)), st)
  | listSchedules period owner =>
    (.ok (.schedules (st.listSchedules period owner)), st)
  | insertRun r => (.ok (.run r), st.insertRun r)
  | findRun id => (.ok (.found .run (st.payroll.get? id)), st)
  | confirmRun id actor time => changed (st.confirmRun id actor time) .run
  | listRuns organization employee state =>
    (.ok (.runs (st.listRuns organization employee state)), st)
  | insertEmployee e => changed (st.insertEmployee e) .employee
  | findEmployee id => (.ok (.found .employee (st.employees.get? id)), st)
  | updateEmployee e => changed (st.updateEmployee e) .employee
  | listEmployees organization =>
    (.ok (.employees (st.listEmployees organization)), st)
  | insertOrganization o => changed (st.insertOrganization o) .organization
  | findOrganization id =>
    (.ok (.found .organization (st.organizations.get? id)), st)
  | listOrganizations organization =>
    (.ok (.organizations (st.listOrganizations organization)), st)
  | appendAudit entry =>
    changed (st.appendAudit sinks entry) fun () => .nothing
  | auditEntries => (.ok (.audit st.audit), st)
  | events => (.ok (.events st.events), st)

end StoreCall
end Workforce
