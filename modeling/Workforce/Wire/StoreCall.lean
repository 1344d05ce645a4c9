import Workforce.Service.Session
import Workforce.Store.Call
import Workforce.Wire.Activity
import Workforce.Wire.Call
import Workforce.Wire.People

/-!
The wire form of requests to the store: a name and arguments. A request about
one entity has the entity itself for arguments.
-/

namespace Workforce.Wire

/-- The scope that is confined to an organization, if one is given. -/
def scopeOf (organization : Option String) : TenantScope :=
  organization.elim .everything .organization

/-- The filter that members of a query give. -/
def ownerOf (ms : List (String × Json)) : Option OwnerFilter :=
  return ⟨← optional ms "organization_id", ← optional ms "employee_id"⟩

/-- What is to be kept under the id of a profile. -/
def draftOf (ms : List (String × Json)) : Option Store.ProfileDraft :=
  return {
    id := ← required ms "id"
    organization := ← optional ms "organization_id"
    name := ← required ms "name"
    mode := ← required ms "mode"
    withholdingRate := ← optional ms "withholding_rate"
    socialInsuranceRate := ← optional ms "social_insurance_rate"
    fixedOther := ← required ms "fixed_other_deduction_krw"
    active := ← required ms "active" }

/-- The request to the store of this name with these arguments. -/
def decodeStoreCall (name : String) (arguments : Json) : Option StoreCall :=
  let ms := argumentsOf arguments
  match name with
  | "store.attendance.insert" => return .insertRecord (← decode arguments)
  | "store.attendance.find" => return .findRecord (← required ms "id")
  | "store.attendance.update_pending" =>
    return .updatePendingRecord (← decode arguments)
  | "store.attendance.list" =>
    return .listRecords (← periodOf ms) (← ownerOf ms) (← optional ms "state")
  | "store.leave.insert" => return .insertLeave (← decode arguments)
  | "store.leave.find" => return .findLeave (← required ms "id")
  | "store.leave.update_pending" =>
    return .updatePendingLeave (← decode arguments)
  | "store.leave.list" =>
    return .listLeave (← periodOf ms) (← ownerOf ms) (← optional ms "state")
  | "store.leave.find_overlapping_active" =>
    return .overlappingLeave (← required ms "employee_id")
      ⟨← required ms "first", ← required ms "last"⟩
      (← optional ms "exclude_id")
  | "store.leave.record_decision" =>
    return .recordDecision (← required ms "request")
      (← required ms "decision")
  | "store.leave.approve_with_usage" =>
    return .approveLeave (← required ms "request") (← required ms "decision")
      (← required ms "default_granted_days")
  | "store.leave.list_decisions" =>
    return .listDecisions (← required ms "id")
  | "store.leave_balances.ensure" =>
    return .openBalance (← required ms "employee_id")
      (← optional ms "organization_id")
      (← required ms "default_granted_days")
  | "store.leave_balances.settle_accrual" =>
    return .settleBalance (← required ms "employee_id")
      (← optional ms "organization_id") (← argument ms "year" decodeInt32)
      (← required ms "annual_grant_days")
      (← required ms "carry_over_cap_days")
      (← required ms "default_granted_days")
  | "store.deduction_profiles.find" => return .findProfile (← required ms "id")
  | "store.deduction_profiles.upsert" =>
    return .upsertProfile (scopeOf (← optional ms "scope")) (← draftOf ms)
  | "store.schedules.insert" => return .insertSchedule (← decode arguments)
  | "store.schedules.find_overlapping" =>
    return .overlappingSchedules (← required ms "employee_id")
      (← required ms "start_at") (← required ms "end_at")
  | "store.schedules.list" =>
    return .listSchedules (← periodOf ms) (← ownerOf ms)
  | "store.payroll.insert" => return .insertRun (← decode arguments)
  | "store.payroll.find" => return .findRun (← required ms "id")
  | "store.payroll.confirm" =>
    return .confirmRun (← required ms "id") (← required ms "confirmed_by")
      (← required ms "confirmed_at")
  | "store.payroll.list" =>
    return .listRuns (← optional ms "organization_id")
      (← optional ms "employee_id") (← optional ms "state")
  | "store.employees.insert" => return .insertEmployee (← decode arguments)
  | "store.employees.find" => return .findEmployee (← required ms "id")
  | "store.employees.update" => return .updateEmployee (← decode arguments)
  | "store.employees.list" =>
    return .listEmployees (← optional ms "organization_id")
  | "store.organizations.insert" =>
    return .insertOrganization (← decode arguments)
  | "store.organizations.find" =>
    return .findOrganization (← required ms "id")
  | "store.organizations.list" =>
    return .listOrganizations (← optional ms "organization_id")
  | "store.audit.append" => return .appendAudit (← decode arguments)
  | "store.audit_entries" => some .auditEntries
  | "store.events" => some .events
  | _ => none

/-- The request of this name with these arguments, to the services or to the
store. -/
def requestOf? (name : String) (arguments : Json) : Option Request :=
  match decodeCall name arguments with
  | some c => some (.call c)
  | none => (decodeStoreCall name arguments).map .store

end Workforce.Wire
