import Workforce.Service.Context
import Workforce.Store.Leave
import Workforce.Wire.Leave

/-!
Operations on leave requests and leave balances.
-/

namespace Workforce.Service

open Wire

/-- A leave to be asked for. -/
structure NewLeave where
  employee : String
  kind : LeaveKind
  start : ZonedTime
  finish : ZonedTime
  reason : Option String
deriving DecidableEq, Repr

/-- Which requests to list. -/
structure LeaveQuery where
  period : Period
  employee : Option String
  state : Option LeaveState
deriving DecidableEq, Repr

/-- A year to be settled for an employee, on terms that may be left to the
configuration. -/
structure AccrualInput where
  employee : String
  year : Int
  annualGrantDays : Option Int
  carryOverCapDays : Option Int
deriving DecidableEq, Repr

/-- A new request of an employee, which is pending. -/
def NewLeave.toRequest (l : NewLeave) (id : String) (employee : Employee)
    (days : Int) (now : Instant) : LeaveRequest :=
  { id
    employee := employee.id
    organization := employee.organization
    kind := l.kind
    start := l.start
    finish := l.finish
    days
    reason := l.reason
    state := .pending
    decisionReason := none
    decidedBy := none
    decidedAt := none
    createdAt := now
    updatedAt := now }

/-! ## Checks -/

/-- Passes an actor who may write leave requests of some kind. -/
def requireLeaveWriter (actor : Actor) : Outcome Unit :=
  actor.requireAny OwnOrAny.leaveWrite.permissions "insufficient permissions"

/-- The request, if there is one within the scope. -/
def requireLeave (st : Store) (scope : TenantScope) (id : String) :
    Outcome LeaveRequest :=
  scope.visible (st.leave.get? id) "leave request not found"

/-- Passes a request that is pending. -/
def ensurePendingLeave (r : LeaveRequest) : Outcome Unit :=
  Outcome.ensure (r.state = .pending) Store.leaveNotPending

/-- Passes days on which the employee has no other active request. -/
def ensureNoOverlap (st : Store) (employee : String)
    (start finish : ZonedTime) (excluded : Option String) : Outcome Unit :=
  let days := DayRange.ofInstants start.instant finish.instant
  Outcome.ensure (st.overlappingLeave employee days excluded).isEmpty
    (.conflict "overlapping leave request exists")

/-- A notice about a request. -/
def leaveNotice (ctx : Context) (actor : Actor) (action : Action)
    (r : LeaveRequest) (payload : Json) : Notice :=
  ctx.notice actor action (some r.id) r.organization (some payload)

/-! ## Requests -/

/-- Asks for leave of an employee. -/
def createLeave (ctx : Context) (st : Store) (input : NewLeave) :
    Outcome (Effect LeaveRequest) := do
  let (actor, scope) ← ctx.authorize
  requireLeaveWriter actor
  let days ← leaveDays input.start.instant input.finish.instant
  let employee ← requireEmployee st scope input.employee
  OwnOrAny.leaveWrite.require actor employee.id "insufficient permissions"
  ensureNoOverlap st employee.id input.start input.finish none
  let r := input.toRequest (ctx.fresh .leave) employee days ctx.now
  let payload : Json := .obj
    [("employeeId", encode r.employee), ("leaveType", encode r.kind),
      ("startDate", encode r.start), ("endDate", encode r.finish),
      ("days", encode days)]
  return .told (st.insertLeave r)
    (leaveNotice ctx actor .leaveRequested r payload) r

/-- Changes a pending request. -/
def updateLeave (ctx : Context) (st : Store) (id : String)
    (changes : LeaveChanges) : Outcome (Effect LeaveRequest) := do
  let (actor, scope) ← ctx.authorize
  requireLeaveWriter actor
  let existing ← requireLeave st scope id
  ensurePendingLeave existing
  OwnOrAny.leaveWrite.require actor existing.employee
    "insufficient permissions"
  let start := changes.start.getD existing.start
  let finish := changes.finish.getD existing.finish
  let days ← leaveDays start.instant finish.instant
  ensureNoOverlap st existing.employee start finish (some existing.id)
  let payload (r : LeaveRequest) : Json := .obj
    [("leaveType", encode r.kind), ("startDate", encode r.start),
      ("endDate", encode r.finish), ("days", encode r.days)]
  return .ofChange
    (st.updatePendingLeave (existing.amend changes days ctx.now))
    fun r => leaveNotice ctx actor .leaveUpdated r (payload r)

/-- Approves a pending request and charges its days. -/
def approveLeave (ctx : Context) (st : Store) (id : String) :
    Outcome (Effect LeaveApproval) := do
  let (actor, scope) ← ctx.authorize
  actor.require .leaveApprove "approval requires admin or manager role"
  let existing ← requireLeave st scope id
  ensurePendingLeave existing
  let payload (r : LeaveRequest) (b : LeaveBalance) : Json := .obj
    [("employeeId", encode r.employee), ("leaveType", encode r.kind),
      ("days", encode r.days), ("remainingDays", encode b.remainingDays)]
  return .ofChange
    (st.approveLeave (existing.decide actor .approved none ctx.now)
      (existing.decision actor .approved none ctx.now)
      ctx.config.leave.grantedDays ctx.now)
    fun a => leaveNotice ctx actor .leaveApproved a.request
      (payload a.request a.balance)

/-- Ends a pending request without approving it. -/
def declineLeave (ctx : Context) (st : Store) (actor : Actor)
    (existing : LeaveRequest) (decision : LeaveAction) (told : Action)
    (reason : Option String) : Effect LeaveRequest :=
  .ofChange
    (st.recordDecision (existing.decide actor decision reason ctx.now)
      (existing.decision actor decision reason ctx.now))
    fun r => leaveNotice ctx actor told r
      (.obj [("employeeId", encode r.employee), ("reason", encode reason)])

/-- Rejects a pending request for a reason. -/
def rejectLeave (ctx : Context) (st : Store) (id reason : String) :
    Outcome (Effect LeaveRequest) := do
  let (actor, scope) ← ctx.authorize
  actor.require .leaveReject "rejection requires admin or manager role"
  let reason := Text.trim reason
  Outcome.ensure (reason ≠ "") (.validation "reason is required")
  let existing ← requireLeave st scope id
  ensurePendingLeave existing
  return declineLeave ctx st actor existing .rejected .leaveRejected
    (some reason)

/-- Withdraws a pending request. -/
def cancelLeave (ctx : Context) (st : Store) (id : String)
    (reason : Option String) : Outcome (Effect LeaveRequest) := do
  let (actor, scope) ← ctx.authorize
  requireLeaveWriter actor
  let existing ← requireLeave st scope id
  ensurePendingLeave existing
  OwnOrAny.leaveWrite.require actor existing.employee
    "insufficient permissions"
  return declineLeave ctx st actor existing .canceled .leaveCanceled reason

/-- The requests that meet a period. -/
def listLeave (ctx : Context) (st : Store) (query : LeaveQuery) :
    Outcome (List LeaveRequest) := do
  let (actor, scope) ← ctx.authorize
  ensurePeriod query.period
  let employee ← ListPermissions.leave.filter actor query.employee
  return st.listLeave query.period ⟨scope.organization?, employee⟩ query.state

/-- The decisions on a request. -/
def listDecisions (ctx : Context) (st : Store) (id : String) :
    Outcome (List LeaveDecision) := do
  let (actor, scope) ← ctx.authorize
  actor.requireAny ListPermissions.leave.permissions
    "insufficient permissions"
  let r ← requireLeave st scope id
  let _ ← ListPermissions.leave.filter actor (some r.employee)
  return st.listDecisions r.id

/-! ## Balances -/

/-- The ledger of an employee, which is made if there is none. -/
def readBalance (ctx : Context) (st : Store) (id : String) :
    Outcome (Effect LeaveBalance) := do
  let (actor, scope) ← ctx.authorize
  actor.requireAny OwnOrAny.balanceRead.permissions
    "insufficient permissions"
  let employee ← requireEmployee st scope id
  OwnOrAny.balanceRead.require actor id "insufficient permissions"
  let (balance, st) := st.openBalance employee.id employee.organization
    ctx.config.leave.grantedDays ctx.now
  return .told st
    (ctx.notice actor .leaveBalanceRead (some employee.id)
      employee.organization none) balance

/-- Settles a year for an employee. -/
def settleAccrual (ctx : Context) (st : Store) (input : AccrualInput) :
    Outcome (Effect LeaveBalance) := do
  let (actor, scope) ← ctx.authorize
  actor.require .accrualSettle
    "leave accrual settle requires admin or payroll_operator role"
  let defaults := ctx.config.leave
  let terms ← Settlement.of input.year
    (input.annualGrantDays.getD defaults.annualGrantDays)
    (input.carryOverCapDays.getD defaults.carryOverCapDays)
  let employee ← requireEmployee st scope input.employee
  let payload (b : LeaveBalance) : Json := .obj
    [("employeeId", encode employee.id), ("year", encode terms.year),
      ("annualGrantDays", encode terms.annualGrantDays),
      ("carryOverCapDays", encode terms.carryOverCapDays),
      ("carryOverAppliedDays", encode b.carryOverDays),
      ("grantedDays", encode b.grantedDays),
      ("remainingDays", encode b.remainingDays)]
  return .ofChange
    (st.settleBalance employee.id employee.organization terms
      defaults.grantedDays ctx.now)
    fun b => ctx.notice actor .leaveAccrualSettled (some employee.id)
      employee.organization (some (payload b))

end Workforce.Service
