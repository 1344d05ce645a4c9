import Workforce.Access.Actor
import Workforce.Fault
import Workforce.Text.Blank

/-!
Permissions, the roles that hold them, and the checks made with them.
-/

namespace Workforce

/-- What an actor may be allowed to do. -/
inductive Permission where
  | organizationsManage
  | employeesManage
  | recordWriteAny
  | recordWriteOwn
  | recordApprove
  | recordReject
  | recordListAny
  | recordListByEmployee
  | recordListOwn
  | aggregateListAny
  | aggregateListByEmployee
  | aggregateListOwn
  | leaveWriteAny
  | leaveWriteOwn
  | leaveApprove
  | leaveReject
  | leaveListAny
  | leaveListByEmployee
  | leaveListOwn
  | balanceReadAny
  | balanceReadOwn
  | accrualSettle
  | runPreview
  | runConfirm
  | runList
  | profileRead
  | profileWrite
  | scheduleWriteAny
  | scheduleListAny
  | scheduleListByEmployee
  | scheduleListOwn
deriving DecidableEq, Repr

instance : Named Permission where
  all :=
    [.organizationsManage, .employeesManage,
      .recordWriteAny, .recordWriteOwn, .recordApprove, .recordReject,
      .recordListAny, .recordListByEmployee, .recordListOwn,
      .aggregateListAny, .aggregateListByEmployee, .aggregateListOwn,
      .leaveWriteAny, .leaveWriteOwn, .leaveApprove, .leaveReject,
      .leaveListAny, .leaveListByEmployee, .leaveListOwn,
      .balanceReadAny, .balanceReadOwn, .accrualSettle,
      .runPreview, .runConfirm, .runList, .profileRead, .profileWrite,
      .scheduleWriteAny, .scheduleListAny, .scheduleListByEmployee,
      .scheduleListOwn]
  name
    | .organizationsManage => "people.organizations.manage"
    | .employeesManage => "people.employees.manage"
    | .recordWriteAny => "attendance.record.write.any"
    | .recordWriteOwn => "attendance.record.write.own"
    | .recordApprove => "attendance.record.approve"
    | .recordReject => "attendance.record.reject"
    | .recordListAny => "attendance.record.list.any"
    | .recordListByEmployee => "attendance.record.list.by_employee"
    | .recordListOwn => "attendance.record.list.own"
    | .aggregateListAny => "attendance.aggregate.list.any"
    | .aggregateListByEmployee => "attendance.aggregate.list.by_employee"
    | .aggregateListOwn => "attendance.aggregate.list.own"
    | .leaveWriteAny => "leave.request.write.any"
    | .leaveWriteOwn => "leave.request.write.own"
    | .leaveApprove => "leave.request.approve"
    | .leaveReject => "leave.request.reject"
    | .leaveListAny => "leave.request.list.any"
    | .leaveListByEmployee => "leave.request.list.by_employee"
    | .leaveListOwn => "leave.request.list.own"
    | .balanceReadAny => "leave.balance.read.any"
    | .balanceReadOwn => "leave.balance.read.own"
    | .accrualSettle => "leave.accrual.settle"
    | .runPreview => "payroll.run.preview"
    | .runConfirm => "payroll.run.confirm"
    | .runList => "payroll.run.list"
    | .profileRead => "payroll.deduction_profile.read"
    | .profileWrite => "payroll.deduction_profile.write"
    | .scheduleWriteAny => "scheduling.schedule.write.any"
    | .scheduleListAny => "scheduling.schedule.list.any"
    | .scheduleListByEmployee => "scheduling.schedule.list.by_employee"
    | .scheduleListOwn => "scheduling.schedule.list.own"

/-- What each role may do. Admins and system actors may do everything. -/
def Role.permissions : Role → List Permission
  | .admin => Named.all
  | .system => Named.all
  | .manager =>
    [.recordWriteAny, .recordApprove, .recordReject, .recordListByEmployee,
      .aggregateListByEmployee, .leaveWriteAny, .leaveApprove, .leaveReject,
      .leaveListByEmployee, .balanceReadAny, .scheduleWriteAny,
      .scheduleListByEmployee]
  | .payrollOperator =>
    [.recordListAny, .aggregateListAny, .leaveListAny, .balanceReadAny,
      .accrualSettle, .runPreview, .runConfirm, .runList, .profileRead,
      .profileWrite, .scheduleListAny]
  | .employee =>
    [.recordWriteOwn, .recordListOwn, .aggregateListOwn, .leaveWriteOwn,
      .leaveListOwn, .balanceReadOwn, .scheduleListOwn]

namespace Actor

/-- Whether the role of an actor holds a permission. -/
def may (a : Actor) (p : Permission) : Bool :=
  a.role.permissions.contains p

/-- Whether the role of an actor holds one of several permissions. -/
def mayAny (a : Actor) (ps : List Permission) : Bool :=
  ps.any a.may

/-- Passes an actor who holds one of several permissions. -/
def requireAny (a : Actor) (ps : List Permission) (message : String) :
    Outcome Unit :=
  Outcome.ensure (a.mayAny ps) (.forbidden message)

/-- Passes an actor who holds a permission. -/
def require (a : Actor) (p : Permission) (message : String) : Outcome Unit :=
  a.requireAny [p] message

end Actor

/-- What is answered to a call that comes from nobody. -/
def requireActor (actor : Option Actor) : Outcome Actor :=
  Outcome.demand actor (.unauthenticated "missing or invalid actor context")

/-! ## What belongs to an employee -/

/-- The permission to act on what is one's own, and the one to act on what is
anybody's. -/
structure OwnOrAny where
  own : Permission
  any : Permission
deriving DecidableEq, Repr

namespace OwnOrAny

/-- Writing attendance records. -/
def recordWrite : OwnOrAny := ⟨.recordWriteOwn, .recordWriteAny⟩

/-- Writing leave requests. -/
def leaveWrite : OwnOrAny := ⟨.leaveWriteOwn, .leaveWriteAny⟩

/-- Reading leave balances. -/
def balanceRead : OwnOrAny := ⟨.balanceReadOwn, .balanceReadAny⟩

/-- Both permissions. -/
def permissions (p : OwnOrAny) : List Permission :=
  [p.own, p.any]

/-- Whether an actor may act on what belongs to an employee. -/
def admits (p : OwnOrAny) (a : Actor) (employee : String) : Bool :=
  a.may p.any || (a.may p.own && a.id == employee)

/-- Passes an actor who may act on what belongs to an employee. -/
def require (p : OwnOrAny) (a : Actor) (employee message : String) :
    Outcome Unit :=
  Outcome.ensure (p.admits a employee) (.forbidden message)

end OwnOrAny

/-! ## Lists -/

/-- The permissions to list one's own entries, those of an employee one names,
and those of everybody. -/
structure ListPermissions where
  own : Permission
  byEmployee : Permission
  any : Permission
deriving DecidableEq, Repr

namespace ListPermissions

/-- Listing attendance records. -/
def records : ListPermissions :=
  ⟨.recordListOwn, .recordListByEmployee, .recordListAny⟩

/-- Listing totals of attendance. -/
def aggregates : ListPermissions :=
  ⟨.aggregateListOwn, .aggregateListByEmployee, .aggregateListAny⟩

/-- Listing leave requests. -/
def leave : ListPermissions :=
  ⟨.leaveListOwn, .leaveListByEmployee, .leaveListAny⟩

/-- Listing schedules. -/
def schedules : ListPermissions :=
  ⟨.scheduleListOwn, .scheduleListByEmployee, .scheduleListAny⟩

/-- All three permissions. -/
def permissions (p : ListPermissions) : List Permission :=
  [p.own, p.byEmployee, p.any]

/-- The employee to whom a list is confined: whoever was asked for, if
anybody's entries may be listed; the actor, if only the own ones may; and a
named employee, if one has to be named. -/
def filter (p : ListPermissions) (a : Actor) (requested : Option String) :
    Outcome (Option String) :=
  if a.may p.any then
    .ok requested
  else if a.may p.own then
    if requested.getD a.id = a.id then
      .ok (some a.id)
    else
      Outcome.refuse (.forbidden "employee can only list own records")
  else if a.may p.byEmployee then
    match requested with
    | some employee =>
      if Text.allBlank employee then
        Outcome.refuse (.validation
          "employeeId is required for manager list queries")
      else
        .ok (some employee)
    | none =>
      Outcome.refuse (.validation
        "employeeId is required for manager list queries")
  else
    Outcome.refuse (.forbidden "insufficient permissions")

end ListPermissions
end Workforce
