import Workforce.Reply
import Workforce.Service.Attendance
import Workforce.Service.Leave
import Workforce.Service.Payroll
import Workforce.Service.People
import Workforce.Service.Schedule

/-!
The operations as calls: what can be asked of the services, what each call
comes to, and how a call is carried out on a store.
-/

namespace Workforce

open Service

/-- An operation with its arguments. -/
inductive Call where
  | createOrganization (name : String)
  | listOrganizations
  | getOrganization (id : String)
  | createEmployee (input : NewEmployee)
  | listEmployees (active : Option Bool)
  | getEmployee (id : String)
  | updateEmployee (id : String) (changes : EmployeeChanges)
  | createRecord (input : NewRecord)
  | updateRecord (id : String) (changes : RecordChanges)
  | approveRecord (id : String)
  | rejectRecord (id : String) (reason : Option String)
  | listRecords (query : RecordQuery)
  | listAggregates (query : RecordQuery)
  | createLeave (input : NewLeave)
  | updateLeave (id : String) (changes : LeaveChanges)
  | approveLeave (id : String)
  | rejectLeave (id reason : String)
  | cancelLeave (id : String) (reason : Option String)
  | listLeave (query : LeaveQuery)
  | listDecisions (id : String)
  | readBalance (employee : String)
  | settleAccrual (input : AccrualInput)
  | createSchedule (input : NewSchedule)
  | listSchedules (query : ScheduleQuery)
  | previewPayroll (input : PreviewInput)
  | previewPayrollWithDeductions (input : PreviewInput)
      (request : DeductionRequest)
  | confirmRun (id : String)
  | listRuns (employee : Option String) (state : Option PayrollState)
  | readProfile (id : String)
  | upsertProfile (id : String) (input : ProfileInput)

namespace Call

/-- What an operation that may change the store comes to. -/
def changing {α : Type} (st : Store) (effect : Outcome (Effect α))
    (reply : α → Reply) : Effect Reply :=
  (Effect.ofOutcome st effect).map reply

/-- What an operation that only looks at the store comes to. -/
def reading {α : Type} (st : Store) (value : Outcome α) (reply : α → Reply) :
    Effect Reply :=
  .answer st (value.map reply)

/-- What a call comes to. -/
def effect (ctx : Context) (st : Store) : Call → Effect Reply
  | createOrganization name =>
    changing st (Service.createOrganization ctx st name) .organization
  | listOrganizations =>
    reading st (Service.listOrganizations ctx st) .organizations
  | getOrganization id =>
    reading st (Service.getOrganization ctx st id) .organization
  | createEmployee input =>
    changing st (Service.createEmployee ctx st input) .employee
  | listEmployees active =>
    reading st (Service.listEmployees ctx st active) .employees
  | getEmployee id =>
    reading st (Service.getEmployee ctx st id) .employee
  | updateEmployee id changes =>
    changing st (Service.updateEmployee ctx st id changes) .employee
  | createRecord input =>
    changing st (Service.createRecord ctx st input) .record
  | updateRecord id changes =>
    changing st (Service.updateRecord ctx st id changes) .record
  | approveRecord id =>
    changing st (Service.approveRecord ctx st id) .record
  | rejectRecord id reason =>
    changing st (Service.rejectRecord ctx st id reason) .record
  | listRecords query =>
    reading st (Service.listRecords ctx st query) .records
  | listAggregates query =>
    reading st (Service.listAggregates ctx st query) .aggregates
  | createLeave input =>
    changing st (Service.createLeave ctx st input) .leave
  | updateLeave id changes =>
    changing st (Service.updateLeave ctx st id changes) .leave
  | approveLeave id =>
    changing st (Service.approveLeave ctx st id) .approval
  | rejectLeave id reason =>
    changing st (Service.rejectLeave ctx st id reason) .leave
  | cancelLeave id reason =>
    changing st (Service.cancelLeave ctx st id reason) .leave
  | listLeave query =>
    reading st (Service.listLeave ctx st query) .leaves
  | listDecisions id =>
    reading st (Service.listDecisions ctx st id) .decisions
  | readBalance employee =>
    changing st (Service.readBalance ctx st employee) .balance
  | settleAccrual input =>
    changing st (Service.settleAccrual ctx st input) .balance
  | createSchedule input =>
    changing st (Service.createSchedule ctx st input) .schedule
  | listSchedules query =>
    reading st (Service.listSchedules ctx st query) .schedules
  | previewPayroll input =>
    changing st (Service.previewPayroll ctx st input) .preview
  | previewPayrollWithDeductions input request =>
    changing st
      (Service.previewPayrollWithDeductions ctx st input request) .preview
  | confirmRun id =>
    changing st (Service.confirmRun ctx st id) .run
  | listRuns employee state =>
    reading st (Service.listRuns ctx st employee state) .runs
  | readProfile id =>
    changing st (Service.readProfile ctx st id) .profile
  | upsertProfile id input =>
    changing st (Service.upsertProfile ctx st id input) .profile

/-- Carries a call out: what it comes to is kept, told and replied. -/
def perform (ctx : Context) (sinks : Sinks) (st : Store) (c : Call) :
    Outcome Reply × Store :=
  (c.effect ctx st).record sinks

end Call
end Workforce
