import Mathlib.Logic.Basic
import Workforce.Proofs.Outcome
import Workforce.Service.Call

/-!
# What does not depend on the ledgers

Only three operations ask for a ledger (`Call.opensLedger`).  This module shows
that every other one comes to the same in a store with other ledgers and
another audit log, and leaves both as they are.

Everything else that operations look at is the same in the two stores by
definition.  An operation is a chain of checks with a change at its end, so
what is done to the store can be taken along the chain
(`Outcome.map_bind`), and what is left to see is that it can be done before
the change as well as after it.
-/

namespace Workforce

open Service

/-- Whether a call asks for a ledger. -/
def Call.opensLedger : Call → Bool
  | approveLeave _ => true
  | readBalance _ => true
  | settleAccrual _ => true
  | _ => false

/-- The store with other ledgers and another audit log. -/
def Store.withLedgers (st : Store) (ledgers : Table LeaveBalance)
    (audit : List AuditEntry) : Store :=
  { st with balances := ledgers, audit }

section Changes

variable {ledgers : Table LeaveBalance} {audit : List AuditEntry}

/-- The effect on a store with other ledgers and another audit log. -/
def Effect.withLedgers {α : Type} (e : Effect α)
    (ledgers : Table LeaveBalance) (audit : List AuditEntry) : Effect α :=
  { e with store := e.store.withLedgers ledgers audit }

/-- A change of a store with other ledgers and another audit log. -/
def Store.changeWithLedgers {α : Type} (change : Outcome α × Store)
    (ledgers : Table LeaveBalance) (audit : List AuditEntry) :
    Outcome α × Store :=
  (change.1, change.2.withLedgers ledgers audit)

open Store (changeWithLedgers)

/-! ## Changes of other tables -/

theorem Effect.ofChange_withLedgers {α : Type} (change : Outcome α × Store)
    (tell : α → Notice) :
    ofChange (changeWithLedgers change ledgers audit) tell =
      (ofChange change tell).withLedgers ledgers audit := by
  obtain ⟨result, st⟩ := change
  cases result with
  | error failure =>
      rfl
  | ok a =>
      rfl

theorem Effect.afterChange_withLedgers {α : Type}
    (change : Outcome α × Store) (tell : α → Outcome Notice) :
    afterChange (changeWithLedgers change ledgers audit) tell =
      (afterChange change tell).withLedgers ledgers audit := by
  obtain ⟨result, st⟩ := change
  cases result with
  | error failure =>
      rfl
  | ok a =>
      simp only [afterChange, changeWithLedgers]
      cases tell a with
      | error failure =>
          rfl
      | ok notice =>
          rfl

theorem Store.changeWithLedgers_ite {α : Type} {p : Prop} [Decidable p]
    (first second : Outcome α × Store) :
    changeWithLedgers (if p then first else second) ledgers audit =
      if p then changeWithLedgers first ledgers audit
      else changeWithLedgers second ledgers audit :=
  apply_ite (changeWithLedgers · ledgers audit) p first second

namespace Store

variable (st : Store)

theorem updatePendingRecord_withLedgers (r : AttendanceRecord) :
    (st.withLedgers ledgers audit).updatePendingRecord r =
      changeWithLedgers (st.updatePendingRecord r) ledgers audit := by
  rw [updatePendingRecord, updatePendingRecord, changeWithLedgers_ite]
  rfl

theorem insertSchedule_withLedgers (s : WorkSchedule) :
    (st.withLedgers ledgers audit).insertSchedule s =
      changeWithLedgers (st.insertSchedule s) ledgers audit := by
  rw [insertSchedule, insertSchedule, changeWithLedgers_ite]
  rfl

theorem updatePendingLeave_withLedgers (r : LeaveRequest) :
    (st.withLedgers ledgers audit).updatePendingLeave r =
      changeWithLedgers (st.updatePendingLeave r) ledgers audit := by
  rw [updatePendingLeave, updatePendingLeave, changeWithLedgers_ite]
  rfl

theorem recordDecision_withLedgers (r : LeaveRequest) (d : LeaveDecision) :
    (st.withLedgers ledgers audit).recordDecision r d =
      changeWithLedgers (st.recordDecision r d) ledgers audit := by
  rw [recordDecision, recordDecision, changeWithLedgers_ite]
  rfl

theorem confirmRun_withLedgers (id actor : String) (time : Instant) :
    (st.withLedgers ledgers audit).confirmRun id actor time =
      changeWithLedgers (st.confirmRun id actor time) ledgers audit := by
  have same : (st.withLedgers ledgers audit).payroll = st.payroll := rfl
  rw [confirmRun, confirmRun, same]
  cases st.payroll.get? id with
  | none =>
      rfl
  | some r =>
      dsimp only
      rw [changeWithLedgers_ite]
      rfl

theorem upsertProfile_withLedgers (scope : TenantScope) (d : ProfileDraft)
    (now : Instant) :
    (st.withLedgers ledgers audit).upsertProfile scope d now =
      changeWithLedgers (st.upsertProfile scope d now) ledgers audit := by
  have same : (st.withLedgers ledgers audit).profiles = st.profiles := rfl
  rw [upsertProfile, upsertProfile, same]
  cases st.profiles.get? d.id with
  | none =>
      rfl
  | some p =>
      dsimp only
      rw [changeWithLedgers_ite]
      rfl

theorem insertEmployee_withLedgers (e : Employee) :
    (st.withLedgers ledgers audit).insertEmployee e =
      changeWithLedgers (st.insertEmployee e) ledgers audit := by
  rw [insertEmployee, insertEmployee, changeWithLedgers_ite]
  rfl

theorem updateEmployee_withLedgers (e : Employee) :
    (st.withLedgers ledgers audit).updateEmployee e =
      changeWithLedgers (st.updateEmployee e) ledgers audit := by
  rw [updateEmployee, updateEmployee, changeWithLedgers_ite]
  rfl

theorem insertOrganization_withLedgers (o : Organization) :
    (st.withLedgers ledgers audit).insertOrganization o =
      changeWithLedgers (st.insertOrganization o) ledgers audit := by
  rw [insertOrganization, insertOrganization, changeWithLedgers_ite]
  rfl

end Store

/-! ## Operations -/

section Operations

variable {ctx : Context} {st : Store}

theorem Call.changing_withLedgers {α : Type} {x y : Outcome (Effect α)}
    (same : y = x.map fun e => e.withLedgers ledgers audit)
    (reply : α → Reply) :
    changing (st.withLedgers ledgers audit) y reply =
      (changing st x reply).withLedgers ledgers audit := by
  subst same
  cases x with
  | error failure =>
      rfl
  | ok e =>
      rfl

theorem updateEmployee_withLedgers (id : String)
    (changes : EmployeeChanges) :
    updateEmployee ctx (st.withLedgers ledgers audit) id changes =
      (updateEmployee ctx st id changes).map fun e =>
        e.withLedgers ledgers audit := by
  unfold updateEmployee
  cases changes.organization with
  | none =>
      simp only [Outcome.map_bind, Store.updateEmployee_withLedgers,
        Effect.ofChange_withLedgers]
      rfl
  | some requested =>
      simp only [Outcome.map_bind, Store.updateEmployee_withLedgers,
        Effect.ofChange_withLedgers]
      rfl

theorem previewNet_withLedgers (actor : Actor) (scope : TenantScope)
    (input : PreviewInput) (request : DeductionRequest) :
    previewNet ctx (st.withLedgers ledgers audit) actor scope input request =
      (previewNet ctx st actor scope input request).map fun e =>
        e.withLedgers ledgers audit := by
  simp only [previewNet, Outcome.map_bind]
  rfl

theorem previewPayrollWithDeductions_withLedgers (input : PreviewInput)
    (request : DeductionRequest) :
    previewPayrollWithDeductions ctx (st.withLedgers ledgers audit) input
        request =
      (previewPayrollWithDeductions ctx st input request).map fun e =>
        e.withLedgers ledgers audit := by
  simp only [previewPayrollWithDeductions, Outcome.map_bind]
  refine congrArg (ctx.authorize >>= ·) (funext ?_)
  rintro ⟨actor, scope⟩
  refine congrArg (requirePreviewer actor >>= ·) (funext ?_)
  intro _
  rw [previewNet_withLedgers]
  split
  · rfl
  · split
    · rfl
    · cases previewNet ctx st actor scope input request with
      | ok e =>
          rfl
      | error failure =>
          cases failure with
          | overflow cause =>
              rfl
          | refused fault =>
              dsimp only [Except.map]
              split
              · rfl
              · rfl

/-- A call that asks for no ledger comes to the same whatever the ledgers and
the audit log are, and leaves them as they are. -/
theorem Call.effect_withLedgers {c : Call} (apart : c.opensLedger = false)
    (ledgers : Table LeaveBalance) (audit : List AuditEntry) :
    c.effect ctx (st.withLedgers ledgers audit) =
      (c.effect ctx st).withLedgers ledgers audit := by
  cases c with
  | approveLeave _ | readBalance _ | settleAccrual _ =>
      cases apart
  | updateEmployee id changes =>
      exact changing_withLedgers (updateEmployee_withLedgers id changes) _
  | previewPayrollWithDeductions input request =>
      exact changing_withLedgers
        (previewPayrollWithDeductions_withLedgers input request) _
  | createRecord _ | createLeave _ | previewPayroll _ | readProfile _ =>
      -- These end in a change that is made without a further check.
      refine changing_withLedgers ?_ _
      simp only [Service.createRecord, Service.createLeave,
        Service.previewPayroll, Service.readProfile, Outcome.map_bind]
      rfl
  | createOrganization _ | createEmployee _ | updateRecord _ _
  | approveRecord _ | rejectRecord _ _ | updateLeave _ _ | rejectLeave _ _
  | cancelLeave _ _ | createSchedule _ | confirmRun _ | upsertProfile _ _ =>
      -- These leave the last check to the change itself.
      refine changing_withLedgers ?_ _
      simp only [Service.createOrganization, Service.createEmployee,
        Service.updateRecord, Service.approveRecord, Service.rejectRecord,
        Service.updateLeave, Service.rejectLeave,
        Service.cancelLeave, Service.declineLeave, Service.createSchedule,
        Service.confirmRun, Service.upsertProfile, Outcome.map_bind,
        Store.updatePendingRecord_withLedgers,
        Store.insertSchedule_withLedgers,
        Store.updatePendingLeave_withLedgers,
        Store.recordDecision_withLedgers, Store.confirmRun_withLedgers,
        Store.upsertProfile_withLedgers, Store.insertEmployee_withLedgers,
        Store.insertOrganization_withLedgers, Effect.ofChange_withLedgers,
        Effect.afterChange_withLedgers]
      rfl
  | _ =>
      rfl

/-- Nor does such a call change a ledger. -/
theorem Call.balances_of_apart {c : Call} (apart : c.opensLedger = false) :
    (c.effect ctx st).store.balances = st.balances := by
  -- To give the store its own ledgers and its own audit log changes nothing.
  have same : c.effect ctx st =
      (c.effect ctx st).withLedgers st.balances st.audit :=
    effect_withLedgers apart st.balances st.audit
  rw [same]
  rfl

end Operations

end Changes

end Workforce
