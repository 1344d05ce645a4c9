import Workforce.Proofs.Run

/-!
# Who may not ask learns nothing

Most operations are guarded by permissions that do not depend on what is asked
for (`Operation.permissions`).  This module shows that each of them looks at
these before it looks at anything else:

* an actor whose role has none of them is refused with one text for each
  operation (`Operation.denial`), whatever the store holds, whatever the
  arguments are and whichever features are on;
* nothing is written for such an actor, not even to the audit log.

Lists of what belongs to employees are not among these operations, as whom a
role may list depends on whom it asks for.
-/

namespace Workforce

/-! ## Guarded operations -/

/-- The operations with a guard of their own. -/
inductive Operation where
  | createOrganization
  | listOrganizations
  | getOrganization
  | createEmployee
  | listEmployees
  | getEmployee
  | updateEmployee
  | createRecord
  | updateRecord
  | approveRecord
  | rejectRecord
  | createLeave
  | updateLeave
  | approveLeave
  | rejectLeave
  | cancelLeave
  | readBalance
  | settleAccrual
  | createSchedule
  | previewPayroll
  | previewPayrollWithDeductions
  | confirmRun
  | listRuns
  | readProfile
  | upsertProfile
deriving DecidableEq, Repr

namespace Operation

/-- The permissions of which an actor needs one to be heard at all. -/
def permissions : Operation → List Permission
  | createOrganization => [.organizationsManage]
  | listOrganizations => [.organizationsManage]
  | getOrganization => [.organizationsManage]
  | createEmployee => [.employeesManage]
  | listEmployees => [.employeesManage]
  | getEmployee => [.employeesManage]
  | updateEmployee => [.employeesManage]
  | createRecord => [.recordWriteOwn, .recordWriteAny]
  | updateRecord => [.recordWriteOwn, .recordWriteAny]
  | approveRecord => [.recordApprove]
  | rejectRecord => [.recordReject]
  | createLeave => [.leaveWriteOwn, .leaveWriteAny]
  | updateLeave => [.leaveWriteOwn, .leaveWriteAny]
  | approveLeave => [.leaveApprove]
  | rejectLeave => [.leaveReject]
  | cancelLeave => [.leaveWriteOwn, .leaveWriteAny]
  | readBalance => [.balanceReadOwn, .balanceReadAny]
  | settleAccrual => [.accrualSettle]
  | createSchedule => [.scheduleWriteAny]
  | previewPayroll => [.runPreview]
  | previewPayrollWithDeductions => [.runPreview]
  | confirmRun => [.runConfirm]
  | listRuns => [.runList]
  | readProfile => [.profileRead]
  | upsertProfile => [.profileWrite]

/-- What is said to somebody who may not manage people. -/
def peopleDenial (deed : String) : String :=
  s!"people {deed} requires admin role"

/-- What is said to an actor who has none of the permissions. -/
def denial : Operation → String
  | createOrganization => peopleDenial "create organization"
  | listOrganizations => peopleDenial "list organizations"
  | getOrganization => peopleDenial "get organization"
  | createEmployee => peopleDenial "create employee"
  | listEmployees => peopleDenial "list employees"
  | getEmployee => peopleDenial "get employee"
  | updateEmployee => peopleDenial "update employee"
  | approveRecord => "approval requires admin or manager role"
  | rejectRecord => "rejection requires admin or manager role"
  | approveLeave => "approval requires admin or manager role"
  | rejectLeave => "rejection requires admin or manager role"
  | settleAccrual =>
    "leave accrual settle requires admin or payroll_operator role"
  | createSchedule => "schedule assignment requires permission"
  | previewPayroll =>
    "payroll preview requires admin or payroll_operator role"
  | previewPayrollWithDeductions =>
    "payroll preview requires admin or payroll_operator role"
  | confirmRun => "payroll confirm requires admin or payroll_operator role"
  | _ => "insufficient permissions"

end Operation

/-- The operation that a call asks for, whatever its arguments are. -/
def Call.operation? : Call → Option Operation
  | .createOrganization _ => some .createOrganization
  | .listOrganizations => some .listOrganizations
  | .getOrganization _ => some .getOrganization
  | .createEmployee _ => some .createEmployee
  | .listEmployees _ => some .listEmployees
  | .getEmployee _ => some .getEmployee
  | .updateEmployee _ _ => some .updateEmployee
  | .createRecord _ => some .createRecord
  | .updateRecord _ _ => some .updateRecord
  | .approveRecord _ => some .approveRecord
  | .rejectRecord _ _ => some .rejectRecord
  | .createLeave _ => some .createLeave
  | .updateLeave _ _ => some .updateLeave
  | .approveLeave _ => some .approveLeave
  | .rejectLeave _ _ => some .rejectLeave
  | .cancelLeave _ _ => some .cancelLeave
  | .readBalance _ => some .readBalance
  | .settleAccrual _ => some .settleAccrual
  | .createSchedule _ => some .createSchedule
  | .previewPayroll _ => some .previewPayroll
  | .previewPayrollWithDeductions _ _ => some .previewPayrollWithDeductions
  | .confirmRun _ => some .confirmRun
  | .listRuns _ _ => some .listRuns
  | .readProfile _ => some .readProfile
  | .upsertProfile _ _ => some .upsertProfile
  | .listRecords _ => none
  | .listAggregates _ => none
  | .listLeave _ => none
  | .listDecisions _ => none
  | .listSchedules _ => none

/-! ## The first check -/

theorem Actor.requireAny_of_lacking {actor : Actor}
    {permissions : List Permission}
    (lacking : actor.mayAny permissions = false) (message : String) :
    actor.requireAny permissions message =
      Outcome.refuse (.forbidden message) := by
  apply Outcome.ensure_of_not
  rw [lacking]
  exact Bool.false_ne_true

section Guard

variable {ctx : Context} {actor : Actor} {scope : TenantScope} {α : Type}
  {permissions : List Permission} {message : String}

/-- An operation that begins with its guard ends there. -/
private theorem denied_first {rest : Actor × TenantScope → Outcome α}
    {next : Unit → Outcome α} (authorized : ctx.authorize = .ok (actor, scope))
    (lacking : actor.mayAny permissions = false)
    (first : rest (actor, scope) =
      actor.requireAny permissions message >>= next) :
    ctx.authorize >>= rest = Outcome.refuse (.forbidden message) := by
  rw [authorized, Outcome.ok_bind, first, Actor.requireAny_of_lacking lacking]
  rfl

/-- The guard of the operations on people. -/
private theorem denied_people {p : Permission} {deed : String}
    (authorized : ctx.authorize = .ok (actor, scope))
    (lacking : actor.mayAny [p] = false)
    (rest : Actor × TenantScope → Outcome α) :
    Service.authorizePeople ctx p deed >>= rest =
      Outcome.refuse (.forbidden (Operation.peopleDenial deed)) := by
  have denied : Service.authorizePeople ctx p deed =
      Outcome.refuse (.forbidden (Operation.peopleDenial deed)) :=
    denied_first authorized lacking rfl
  rw [denied]
  rfl

end Guard

namespace Call

variable {α : Type} {ctx : Context} {st : Store} {fault : Fault}

private theorem changing_denied {effect : Outcome (Effect α)}
    (denied : effect = Outcome.refuse fault) (reply : α → Reply) :
    changing st effect reply = .answer st (Outcome.refuse fault) := by
  rw [denied]
  rfl

private theorem reading_denied {value : Outcome α}
    (denied : value = Outcome.refuse fault) (reply : α → Reply) :
    reading st value reply = .answer st (Outcome.refuse fault) := by
  rw [denied]
  rfl

/-- A call of a guarded operation by an actor who has none of its permissions
comes to the refusal. -/
theorem effect_of_lacking {c : Call} {op : Operation}
    (guarded : c.operation? = some op) {actor : Actor} {scope : TenantScope}
    (authorized : ctx.authorize = .ok (actor, scope))
    (lacking : actor.mayAny op.permissions = false) :
    c.effect ctx st = .answer st (Outcome.refuse (.forbidden op.denial)) := by
  cases c with
  | createOrganization _ | createEmployee _ | updateEmployee _ _ =>
      obtain rfl := Option.some.inj guarded
      exact changing_denied (denied_people authorized lacking _) _
  | listOrganizations | getOrganization _ | listEmployees _
  | getEmployee _ =>
      obtain rfl := Option.some.inj guarded
      exact reading_denied (denied_people authorized lacking _) _
  | listRuns _ _ =>
      obtain rfl := Option.some.inj guarded
      exact reading_denied (denied_first authorized lacking rfl) _
  | listRecords _ | listAggregates _ | listLeave _ | listDecisions _
  | listSchedules _ =>
      -- Whom these may be asked for depends on the role.
      cases guarded
  | _ =>
      obtain rfl := Option.some.inj guarded
      exact changing_denied (denied_first authorized lacking rfl) _

end Call

/-! ## No probing -/

/-- Who has none of the permissions of an operation learns nothing by asking
for it.  The reply is a refusal whose text is that of the operation, and the
whole store, its logs included, stays as it is; neither depends on the store,
the arguments, the features that are on, the sinks or the actor. -/
theorem perform_of_lacking (op : Operation) {ctx : Context} {actor : Actor}
    {scope : TenantScope} (called : ctx.actor = some actor)
    (resolved : TenantScope.resolve ctx.actor ctx.config.features.tenancy =
      .ok scope)
    (lacking : actor.mayAny op.permissions = false) (sinks : Sinks)
    (st : Store) {c : Call} (guarded : c.operation? = some op) :
    c.perform ctx sinks st =
      (Outcome.refuse (.forbidden op.denial), st) := by
  have authorized := Context.authorize_eq_ok.2 ⟨called, resolved⟩
  rw [Call.perform, Call.effect_of_lacking guarded authorized lacking]
  rfl

/-- A manager under the standard configuration, with no feature on. -/
def managerContext : Context :=
  { approving.ctx with
    actor := some { id := "mgr-001", role := .manager, organization := none } }

/-- The manager asks for a preview of net pay that nobody could have, over no
time and at no rate.  Anybody who is heard would be told that the feature is
off, and the audit log too; the manager is told that it takes another role. -/
theorem previewingNet_of_manager :
    TenantScope.resolve managerContext.actor
        managerContext.config.features.tenancy = .ok .everything ∧
      ({ id := "mgr-001", role := .manager, organization := none } :
        Actor).mayAny Operation.previewPayrollWithDeductions.permissions =
          false ∧
      (Call.previewPayrollWithDeductions
          ⟨.ofInstant ⟨1⟩, .ofInstant ⟨0⟩, none, some 0, none⟩
          (.profile "std" 1)).perform managerContext .working
            approving.after =
        (Outcome.refuse (.forbidden
          "payroll preview requires admin or payroll_operator role"),
          approving.after) :=
  ⟨rfl, by decide,
    perform_of_lacking .previewPayrollWithDeductions rfl rfl (by decide)
      .working approving.after rfl⟩

end Workforce
