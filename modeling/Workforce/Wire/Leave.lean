import Workforce.Leave.Balance
import Workforce.Leave.Request
import Workforce.Wire.Basic

/-!
The wire form of leave requests, decisions and balances.
-/

namespace Workforce.Wire

instance : Wire LeaveRequest where
  encode r := .obj
    [("id", encode r.id), ("employee_id", encode r.employee),
      ("organization_id", encode r.organization),
      ("leave_type", encode r.kind), ("start_date", encode r.start),
      ("end_date", encode r.finish), ("days", encode r.days),
      ("reason", encode r.reason), ("state", encode r.state),
      ("decision_reason", encode r.decisionReason),
      ("decided_by", encode r.decidedBy), ("decided_at", encode r.decidedAt),
      ("created_at", encode r.createdAt), ("updated_at", encode r.updatedAt)]
  decode j := do
    let ms ← members?
      ["id", "employee_id", "organization_id", "leave_type", "start_date",
        "end_date", "days", "reason", "state", "decision_reason",
        "decided_by", "decided_at", "created_at", "updated_at"] 14 j
    return {
      id := ← required ms "id"
      employee := ← required ms "employee_id"
      organization := ← optional ms "organization_id"
      kind := ← required ms "leave_type"
      start := ← required ms "start_date"
      finish := ← required ms "end_date"
      days := ← required ms "days"
      reason := ← optional ms "reason"
      state := ← required ms "state"
      decisionReason := ← optional ms "decision_reason"
      decidedBy := ← optional ms "decided_by"
      decidedAt := ← optional ms "decided_at"
      createdAt := ← required ms "created_at"
      updatedAt := ← required ms "updated_at" }

instance : Wire LeaveDecision where
  encode d := .obj
    [("request_id", encode d.request), ("action", encode d.action),
      ("actor_id", encode d.actor), ("actor_role", encode d.role),
      ("reason", encode d.reason), ("recorded_at", encode d.recordedAt)]
  decode j := do
    let ms ← members?
      ["request_id", "action", "actor_id", "actor_role", "reason",
        "recorded_at"] 6 j
    return {
      request := ← required ms "request_id"
      action := ← required ms "action"
      actor := ← required ms "actor_id"
      role := ← required ms "actor_role"
      reason := ← optional ms "reason"
      recordedAt := ← required ms "recorded_at" }

instance : Wire LeaveBalance where
  encode b := .obj
    [("employee_id", encode b.employee),
      ("organization_id", encode b.organization),
      ("granted_days", encode b.grantedDays),
      ("used_days", encode b.usedDays),
      ("remaining_days", encode b.remainingDays),
      ("carry_over_days", encode b.carryOverDays),
      ("last_accrual_year", encode b.lastAccrualYear),
      ("updated_at", encode b.updatedAt)]
  decode j := do
    let ms ← members?
      ["employee_id", "organization_id", "granted_days", "used_days",
        "remaining_days", "carry_over_days", "last_accrual_year",
        "updated_at"] 8 j
    return {
      employee := ← required ms "employee_id"
      organization := ← optional ms "organization_id"
      grantedDays := ← required ms "granted_days"
      usedDays := ← required ms "used_days"
      remainingDays := ← required ms "remaining_days"
      carryOverDays := ← required ms "carry_over_days"
      lastAccrualYear := ← optionalYear ms "last_accrual_year"
      updatedAt := ← required ms "updated_at" }

end Workforce.Wire
