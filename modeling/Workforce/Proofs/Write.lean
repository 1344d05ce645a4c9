import Workforce.Proofs.Outcome
import Workforce.Proofs.Table
import Workforce.Store.Attendance
import Workforce.Store.Leave
import Workforce.Store.Payroll
import Workforce.Store.People

/-!
# What the store is changed by

Every change that an operation makes puts at most one row into each table and
adds at most one decision to the log.  Such a change is a `Write`, and this
module shows which write each operation of the store comes to:

* a new entity is one row;
* a decision on a leave request is a row and a log entry, and an approval also
  a row of the ledgers;
* opening a ledger puts in the row that is there, or a fresh one;
* a refused change is no write at all.  A ledger that is opened for a
  settlement which is then refused was there before.
-/

namespace Workforce

/-! ## Settled ledgers -/

namespace LeaveBalance

/-- A settlement that is accepted starts the year on its terms. -/
theorem settle_eq_ok {b after : LeaveBalance} {terms : Settlement}
    {now : Instant} (accepted : b.settle terms now = .ok after) :
    after =
      { b with
        grantedDays := terms.annualGrantDays + b.carriedOver terms
        usedDays := 0
        remainingDays := terms.annualGrantDays + b.carriedOver terms
        carryOverDays := b.carriedOver terms
        lastAccrualYear := some terms.year
        updatedAt := now } := by
  simp only [LeaveBalance.settle, Outcome.bind_eq_ok, Outcome.ensure_eq_ok,
    Outcome.pure_eq_ok] at accepted
  obtain ⟨_, _, rfl⟩ := accepted
  rfl

theorem settle_employee {b after : LeaveBalance}
    {terms : Settlement} {now : Instant}
    (accepted : b.settle terms now = .ok after) :
    after.employee = b.employee := by
  rw [settle_eq_ok accepted]

theorem settle_organization {b after : LeaveBalance}
    {terms : Settlement} {now : Instant}
    (accepted : b.settle terms now = .ok after) :
    after.organization = b.organization := by
  rw [settle_eq_ok accepted]

end LeaveBalance

/-! ## Writes -/

/-- At most one row for each table, and at most one decision. -/
structure Write where
  record : Option AttendanceRecord := none
  leave : Option LeaveRequest := none
  decision : Option LeaveDecision := none
  balance : Option LeaveBalance := none
  schedule : Option WorkSchedule := none
  profile : Option DeductionProfile := none
  run : Option PayrollRun := none
  employee : Option Employee := none
  organization : Option Organization := none

namespace Store

/-- The store with what a write brings.  The logs of audit entries and events
are not part of it. -/
def write (st : Store) (w : Write) : Store :=
  { st with
    attendance := st.attendance.putAny w.record
    leave := st.leave.putAny w.leave
    decisions := st.decisions ++ w.decision.toList
    balances := st.balances.putAny w.balance
    schedules := st.schedules.putAny w.schedule
    profiles := st.profiles.putAny w.profile
    payroll := st.payroll.putAny w.run
    employees := st.employees.putAny w.employee
    organizations := st.organizations.putAny w.organization }

@[simp]
theorem write_nothing (st : Store) : st.write {} = st := by
  simp [write, Table.putAny]

/-- A write without a decision leaves the log of decisions as it was. -/
theorem write_decisions {st : Store} {w : Write} (silent : w.decision = none) :
    (st.write w).decisions = st.decisions := by
  simp [write, silent]

/-! ## Attendance records and schedules -/

theorem insertRecord_eq_write (st : Store) (r : AttendanceRecord) :
    st.insertRecord r = st.write { record := some r } := by
  simp [insertRecord, write, Table.putAny]

theorem updatePendingRecord_of_pending {st : Store}
    {r old : AttendanceRecord} (found : st.attendance.get? r.id = some old)
    (pending : old.state = .pending) :
    st.updatePendingRecord r = (.ok r, st.write { record := some r }) := by
  rw [updatePendingRecord, found, insertRecord_eq_write]
  simp [pending]

theorem insertSchedule_of_free {st : Store} {s : WorkSchedule}
    (free : st.overlappingSchedules s.employee s.start.instant
      s.finish.instant = []) :
    st.insertSchedule s = (.ok s, st.write { schedule := some s }) := by
  rw [insertSchedule, free]
  simp [write, Table.putAny]

/-! ## Leave requests -/

theorem insertLeave_eq_write (st : Store) (r : LeaveRequest) :
    st.insertLeave r = st.write { leave := some r } := by
  simp [insertLeave, write, Table.putAny]

theorem isPendingLeave_of_pending {st : Store} {id : String}
    {old : LeaveRequest} (found : st.leave.get? id = some old)
    (pending : old.state = .pending) : st.isPendingLeave id = true := by
  simp [isPendingLeave, found, pending]

theorem updatePendingLeave_of_pending {st : Store} {r old : LeaveRequest}
    (found : st.leave.get? r.id = some old) (pending : old.state = .pending) :
    st.updatePendingLeave r = (.ok r, st.write { leave := some r }) := by
  rw [updatePendingLeave, if_pos (isPendingLeave_of_pending found pending),
    insertLeave_eq_write]

theorem recordDecision_of_pending {st : Store} {r old : LeaveRequest}
    (d : LeaveDecision) (found : st.leave.get? r.id = some old)
    (pending : old.state = .pending) :
    st.recordDecision r d =
      (.ok r, st.write { leave := some r, decision := some d }) := by
  rw [recordDecision, if_pos (isPendingLeave_of_pending found pending)]
  simp [insertLeave, write, Table.putAny]

/-! ## Ledgers -/

theorem putBalance_eq_write (st : Store) (b : LeaveBalance) :
    st.putBalance b = st.write { balance := some b } := by
  simp [putBalance, write, Table.putAny]

/-- The ledger of an employee, or the fresh one that an employee without a
ledger gets. -/
def ledger (st : Store) (employee : String) (organization : Option String)
    (grantedDays : Int) (now : Instant) : LeaveBalance :=
  (st.balances.get? employee).getD
    (LeaveBalance.fresh employee organization grantedDays now)

section Ledgers

variable (st : Store) (employee : String) (organization : Option String)
  (grantedDays : Int) (now : Instant)

theorem ledger_employee :
    (st.ledger employee organization grantedDays now).employee =
      employee := by
  unfold ledger
  cases found : st.balances.get? employee with
  | none =>
      rfl
  | some b =>
      exact Table.key_of_get? found

theorem openBalance_eq_write :
    st.openBalance employee organization grantedDays now =
      (st.ledger employee organization grantedDays now,
        st.write
          { balance :=
              some (st.ledger employee organization grantedDays now) }) := by
  cases found : st.balances.get? employee with
  | none =>
      simp [openBalance, ledger, found, putBalance, write, Table.putAny]
  | some b =>
      have same : st.balances.put b = st.balances :=
        Table.put_of_get? (by
          rw [Table.key_of_get? found]
          exact found)
      simp [openBalance, ledger, found, write, Table.putAny, same]

/-- To open a ledger and then to keep another form of it is to keep that
form. -/
theorem putBalance_openBalance {b : LeaveBalance}
    (own : b.employee = employee) :
    (st.openBalance employee organization grantedDays now).2.putBalance b =
      st.write { balance := some b } := by
  have same :
      Keyed.key (st.ledger employee organization grantedDays now) =
        Keyed.key b :=
    (ledger_employee st employee organization grantedDays now).trans own.symm
  rw [openBalance_eq_write]
  simp [putBalance, write, Table.putAny, Table.put_put _ same]

/-- Only a ledger that is kept can stand in the way of a settlement. -/
theorem ledger_kept_of_settle_error {s : Settlement} {failure : Failure}
    (refused : (st.ledger employee organization grantedDays now).settle s
      now = .error failure) :
    ∃ b, st.balances.get? employee = some b := by
  cases found : st.balances.get? employee with
  | none =>
      simp [ledger, found, LeaveBalance.settle, LeaveBalance.fresh,
        LeaveBalance.isSettledFor, Outcome.ensure, bind, Except.bind, pure,
        Except.pure] at refused
  | some b =>
      exact ⟨b, rfl⟩

theorem settleBalance_eq_write (s : Settlement) :
    st.settleBalance employee organization s grantedDays now =
      match (st.ledger employee organization grantedDays now).settle s
        now with
      | .ok b => (.ok b, st.write { balance := some b })
      | .error failure => (.error failure, st) := by
  have opened := openBalance_eq_write st employee organization grantedDays now
  cases settled :
      (st.ledger employee organization grantedDays now).settle s now with
  | error failure =>
      -- Opening writes nothing here: a fresh ledger is never refused.
      obtain ⟨b, found⟩ := ledger_kept_of_settle_error st employee
        organization grantedDays now settled
      have unchanged :
          st.openBalance employee organization grantedDays now = (b, st) := by
        simp [openBalance, found]
      have same : st.ledger employee organization grantedDays now = b := by
        simp [ledger, found]
      rw [same] at settled
      simp [settleBalance, unchanged, settled]
  | ok b =>
      have own : b.employee = employee := by
        rw [LeaveBalance.settle_employee settled, ledger_employee]
      have written := putBalance_openBalance st employee organization
        grantedDays now own
      rw [opened] at written
      simp only [settleBalance, opened, settled, written]

end Ledgers

theorem approveLeave_of_pending {st : Store} {r old : LeaveRequest}
    (d : LeaveDecision) (grantedDays : Int) (now : Instant)
    (found : st.leave.get? r.id = some old) (pending : old.state = .pending) :
    st.approveLeave r d grantedDays now =
      (.ok ⟨r, (st.ledger r.employee r.organization grantedDays now).use
          r.days now⟩,
        st.write
          { leave := some r
            decision := some d
            balance :=
              some ((st.ledger r.employee r.organization grantedDays now).use
                r.days now) }) := by
  let decided := st.write { leave := some r, decision := some d }
  have sameLedger :
      decided.ledger r.employee r.organization grantedDays now =
        st.ledger r.employee r.organization grantedDays now :=
    rfl
  have own :
      ((st.ledger r.employee r.organization grantedDays now).use r.days
        now).employee = r.employee :=
    ledger_employee st r.employee r.organization grantedDays now
  have charged := putBalance_openBalance decided r.employee r.organization
    grantedDays now own
  have opened := openBalance_eq_write decided r.employee r.organization
    grantedDays now
  rw [opened] at charged
  simp only [approveLeave, recordDecision_of_pending d found pending]
  simp only [show st.write { leave := some r, decision := some d } = decided
    from rfl, opened, sameLedger]
  rw [sameLedger] at charged
  rw [charged]
  simp [decided, write, Table.putAny]

/-! ## Runs and profiles -/

theorem insertRun_eq_write (st : Store) (r : PayrollRun) :
    st.insertRun r = st.write { run := some r } := by
  simp [insertRun, write, Table.putAny]

theorem confirmRun_of_previewed {st : Store} {id : String} {r : PayrollRun}
    (actor : String) (time : Instant) (found : st.payroll.get? id = some r)
    (previewed : r.state = .previewed) :
    st.confirmRun id actor time =
      (.ok (confirmedRun r actor time),
        st.write { run := some (confirmedRun r actor time) }) := by
  simp [confirmRun, found, previewed, insertRun_eq_write]

/-- What is kept of a draft: the first version under a new id, or the next
version of the profile that is there. -/
def drafted (st : Store) (d : ProfileDraft) (now : Instant) :
    DeductionProfile :=
  match st.profiles.get? d.id with
  | some p => d.revise p now
  | none => d.create now

theorem drafted_id (st : Store) (d : ProfileDraft) (now : Instant) :
    (st.drafted d now).id = d.id := by
  unfold drafted
  split
  · rfl
  · rfl

theorem upsertProfile_of_permitted {st : Store} {scope : TenantScope}
    {d : ProfileDraft} (now : Instant)
    (permitted : ∀ p, st.profiles.get? d.id = some p →
      scope.permits p.organization = true) :
    st.upsertProfile scope d now =
      (.ok (st.drafted d now),
        st.write { profile := some (st.drafted d now) }) := by
  cases found : st.profiles.get? d.id with
  | none =>
      simp [upsertProfile, drafted, found, write, Table.putAny]
  | some p =>
      simp [upsertProfile, drafted, found, permitted p found, write,
        Table.putAny]

theorem upsertProfile_of_hidden {st : Store} {scope : TenantScope}
    {d : ProfileDraft} {p : DeductionProfile} (now : Instant)
    (found : st.profiles.get? d.id = some p)
    (hidden : scope.permits p.organization = false) :
    st.upsertProfile scope d now =
      (Outcome.refuse (.notFound "deduction profile not found"), st) := by
  simp [upsertProfile, found, hidden]

/-! ## People -/

theorem insertEmployee_of_new {st : Store} {e : Employee}
    (new : st.employees.get? e.id = none) :
    st.insertEmployee e = (.ok e, st.write { employee := some e }) := by
  simp [insertEmployee, Table.contains, new, write, Table.putAny]

theorem insertEmployee_of_kept {st : Store} {e old : Employee}
    (found : st.employees.get? e.id = some old) :
    st.insertEmployee e =
      (Outcome.refuse (.conflict "employee already exists"), st) := by
  simp [insertEmployee, Table.contains, found]

theorem updateEmployee_of_kept {st : Store} {e old : Employee}
    (found : st.employees.get? e.id = some old) :
    st.updateEmployee e = (.ok e, st.write { employee := some e }) := by
  simp [updateEmployee, Table.contains, found, write, Table.putAny]

theorem insertOrganization_of_new {st : Store} {o : Organization}
    (new : st.organizations.get? o.id = none) :
    st.insertOrganization o =
      (.ok o, st.write { organization := some o }) := by
  simp [insertOrganization, Table.contains, new, write, Table.putAny]

theorem insertOrganization_of_kept {st : Store} {o old : Organization}
    (found : st.organizations.get? o.id = some old) :
    st.insertOrganization o =
      (Outcome.refuse (.conflict "organization already exists"), st) := by
  simp [insertOrganization, Table.contains, found]

end Store
end Workforce
