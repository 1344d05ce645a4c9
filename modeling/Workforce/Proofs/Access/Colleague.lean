import Workforce.Proofs.Access.Denial

/-!
# What an employee is told of a colleague's rows

An employee may ask to correct any record, and to change or withdraw any leave
request, by its id.  This module shows what comes of it where the row is
visible and belongs to somebody else:

* nothing is ever written, not even to the logs, and no argument matters;
* a record is refused with one and the same fault, whatever it holds;
* a request is refused with that fault while it is pending.  Of one that was
  decided the employee is told so, as these two operations look at the state
  before they look at the owner; so a colleague's pending request can be told
  from a decided one.
-/

namespace Workforce

open Service

/-! ## The checks -/

section Checks

variable {actor : Actor} {p : OwnOrAny} {employee message : String}

/-- Whoever may act on what is their own is heard. -/
private theorem heard_of_own (role : actor.role = .employee)
    (own : Role.employee.permissions.contains p.own = true) :
    actor.requireAny p.permissions message = .ok () := by
  apply Outcome.ensure_of
  rw [Actor.mayAny, OwnOrAny.permissions, List.any_cons, Actor.may, role, own,
    Bool.true_or]

/-- Whoever may act on what is their own alone is refused what is somebody
else's. -/
private theorem refused_of_other (role : actor.role = .employee)
    (only : Role.employee.permissions.contains p.any = false)
    (other : employee ≠ actor.id) :
    p.require actor employee message =
      Outcome.refuse (.forbidden message) := by
  have stranger : (actor.id == employee) = false :=
    beq_eq_false_iff_ne.2 (Ne.symm other)
  apply Outcome.ensure_of_not
  rw [OwnOrAny.admits, Actor.may, role, only, stranger, Bool.and_false,
    Bool.false_or]
  exact Bool.false_ne_true

end Checks

/-! ## The operations -/

/-- What an employee is told of a colleague's row. -/
def colleagueDenial : Fault :=
  .forbidden "insufficient permissions"

/-- What an employee is told of a colleague's request. -/
def LeaveRequest.colleagueDenial (r : LeaveRequest) : Fault :=
  if r.state = .pending then Workforce.colleagueDenial
  else Store.leaveNotPending

section Operations

variable {ctx : Context} {actor : Actor} {scope : TenantScope} {st : Store}
  {id : String}

theorem updateRecord_of_colleague
    (authorized : ctx.authorize = .ok (actor, scope))
    (role : actor.role = .employee) {r : AttendanceRecord}
    (found : st.attendance.get? id = some r)
    (visible : scope.permits r.organization = true)
    (other : r.employee ≠ actor.id) (changes : RecordChanges) :
    updateRecord ctx st id changes = Outcome.refuse colleagueDenial := by
  have seen : requireRecord st scope id = .ok r :=
    TenantScope.visible_eq_ok.2 ⟨found, visible⟩
  rw [updateRecord, authorized, Outcome.ok_bind]
  dsimp only
  rw [heard_of_own role rfl, Outcome.ok_bind, seen, Outcome.ok_bind,
    refused_of_other role rfl other]
  rfl

section Leave

variable {r : LeaveRequest}

/-- The checks of a request that somebody asks to have changed or withdrawn
end in its denial, before anything is made of the arguments. -/
private theorem leave_of_colleague {α : Type}
    (role : actor.role = .employee) (found : st.leave.get? id = some r)
    (visible : scope.permits r.organization = true)
    (other : r.employee ≠ actor.id) (rest : LeaveRequest → Outcome α) :
    (do
      requireLeaveWriter actor
      let existing ← requireLeave st scope id
      ensurePendingLeave existing
      OwnOrAny.leaveWrite.require actor existing.employee
        "insufficient permissions"
      rest existing) = Outcome.refuse r.colleagueDenial := by
  have heard : requireLeaveWriter actor = .ok () := heard_of_own role rfl
  have seen : requireLeave st scope id = .ok r :=
    TenantScope.visible_eq_ok.2 ⟨found, visible⟩
  rw [heard, Outcome.ok_bind, seen, Outcome.ok_bind, ensurePendingLeave,
    LeaveRequest.colleagueDenial]
  by_cases pending : r.state = .pending
  · rw [Outcome.ensure_of pending, Outcome.ok_bind,
      refused_of_other role rfl other, if_pos pending]
    rfl
  · rw [Outcome.ensure_of_not pending, if_neg pending]
    rfl

theorem updateLeave_of_colleague
    (authorized : ctx.authorize = .ok (actor, scope))
    (role : actor.role = .employee) (found : st.leave.get? id = some r)
    (visible : scope.permits r.organization = true)
    (other : r.employee ≠ actor.id) (changes : LeaveChanges) :
    updateLeave ctx st id changes = Outcome.refuse r.colleagueDenial := by
  rw [updateLeave, authorized, Outcome.ok_bind]
  exact leave_of_colleague role found visible other _

theorem cancelLeave_of_colleague
    (authorized : ctx.authorize = .ok (actor, scope))
    (role : actor.role = .employee) (found : st.leave.get? id = some r)
    (visible : scope.permits r.organization = true)
    (other : r.employee ≠ actor.id) (reason : Option String) :
    cancelLeave ctx st id reason = Outcome.refuse r.colleagueDenial := by
  rw [cancelLeave, authorized, Outcome.ok_bind]
  exact leave_of_colleague role found visible other _

end Leave

end Operations

/-! ## Calls -/

/-- An employee who asks to correct a colleague's record, or to change or
withdraw a colleague's request, is refused, and the store with its logs stays
as it is, whatever the arguments are.  The fault is one for all records and
for all pending requests, whatever they hold; of a request that was decided it
says that it is not pending.  The store may be any, reachable or not. -/
theorem perform_of_colleague {ctx : Context} {actor : Actor}
    {scope : TenantScope} (called : ctx.actor = some actor)
    (resolved : TenantScope.resolve ctx.actor ctx.config.features.tenancy =
      .ok scope)
    (role : actor.role = .employee) (sinks : Sinks) (st : Store)
    (id : String) :
    (∀ r, st.attendance.get? id = some r →
      scope.permits r.organization = true → r.employee ≠ actor.id →
        ∀ changes, (Call.updateRecord id changes).perform ctx sinks st =
          (Outcome.refuse (.forbidden "insufficient permissions"), st)) ∧
    ∀ r, st.leave.get? id = some r →
      scope.permits r.organization = true → r.employee ≠ actor.id →
        ∀ c : Call, ((∃ changes, c = .updateLeave id changes) ∨
            ∃ reason, c = .cancelLeave id reason) →
          c.perform ctx sinks st =
            (if r.state = .pending then
              Outcome.refuse (.forbidden "insufficient permissions")
            else Outcome.refuse Store.leaveNotPending, st) := by
  have authorized := Context.authorize_eq_ok.2 ⟨called, resolved⟩
  refine ⟨?_, ?_⟩
  · intro r found visible other changes
    rw [Call.perform, Call.effect,
      updateRecord_of_colleague authorized role found visible other]
    rfl
  · intro r found visible other c asked
    have told : c.perform ctx sinks st =
        (Outcome.refuse r.colleagueDenial, st) := by
      rcases asked with ⟨changes, rfl⟩ | ⟨reason, rfl⟩
      · rw [Call.perform, Call.effect,
          updateLeave_of_colleague authorized role found visible other]
        rfl
      · rw [Call.perform, Call.effect,
          cancelLeave_of_colleague authorized role found visible other]
        rfl
    rw [told, LeaveRequest.colleagueDenial]
    split
    · rfl
    · rfl

/-! ## A colleague of the office -/

/-- The shift of an employee whose leave was approved. -/
def clockingLate : Step :=
  officeStep approving.after "5"
    (.createRecord ⟨"emp-001", .ofInstant ⟨0⟩, none, 0, false, none⟩)

/-- Another employee than the one whose rows these are. -/
def colleague : Actor :=
  { id := "emp-002", role := .employee, organization := none }

def colleagueContext : Context :=
  { approving.ctx with actor := some colleague }

/-- The colleague may not correct the shift, nor withdraw the request while it
is pending. -/
theorem refused_to_colleague :
    TenantScope.resolve colleagueContext.actor
        colleagueContext.config.features.tenancy = .ok .everything ∧
      (Call.updateRecord "5" ⟨none, none, some 1000, none, none⟩).perform
          colleagueContext .working clockingLate.after =
        (Outcome.refuse (.forbidden "insufficient permissions"),
          clockingLate.after) ∧
      (Call.cancelLeave "2" none).perform colleagueContext .working
          asking.after =
        (Outcome.refuse (.forbidden "insufficient permissions"),
          asking.after) := by
  refine ⟨rfl, ?_, ?_⟩
  · exact (perform_of_colleague rfl rfl rfl .working clockingLate.after
      "5").1 _ rfl rfl (by decide) _
  · exact (perform_of_colleague rfl rfl rfl .working asking.after
      "2").2 _ rfl rfl (by decide) _ (.inr ⟨none, rfl⟩)

/-- Of the same request the colleague is told after the approval that it is no
longer pending, in place of being refused alike. -/
theorem decided_told_to_colleague :
    Run officeRun approving.after ∧
      (colleagueContext.actor = some colleague ∧
        colleague.role = .employee ∧
        TenantScope.resolve colleagueContext.actor
          colleagueContext.config.features.tenancy = .ok .everything) ∧
      (∃ r, approving.after.leave.get? "2" = some r ∧
        TenantScope.everything.permits r.organization = true ∧
        r.employee ≠ colleague.id) ∧
      ∀ c ∈ [Call.updateLeave "2" ⟨none, none, none, none⟩,
          Call.cancelLeave "2" none],
        (c.perform colleagueContext .working asking.after).1 =
            Outcome.refuse (.forbidden "insufficient permissions") ∧
          (c.perform colleagueContext .working approving.after).1 =
            Outcome.refuse
              (.conflict "only pending leave request can be changed") := by
  refine ⟨run_officeRun, ⟨rfl, rfl, rfl⟩, ⟨_, rfl, rfl, by decide⟩, ?_⟩
  simp only [List.forall_mem_cons]
  exact ⟨⟨rfl, rfl⟩, ⟨rfl, rfl⟩, List.forall_mem_nil _⟩

end Workforce
