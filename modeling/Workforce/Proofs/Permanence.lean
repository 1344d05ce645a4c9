import Workforce.Proofs.Trail

/-!
# What never changes again

Operations replace rows as a whole by changed copies of them.  This module
shows that in any run, also while sinks are out of order,

* a row is never removed, and part of it stays as it was made: where it came
  from, and the figures of a payroll run;
* a row that is closed stays as it is altogether: a record or a request that
  was decided on, a run that was confirmed;
* the logs only grow at their ends.

Each table has its own fixed part and its own closed rows.  Apart from these
all tables are treated alike: a deed puts in a row under a new key, or a copy
of a row that is still open (`Table.Takes`).
-/

namespace Workforce

/-! ## Rows that last -/

namespace Table

variable {α β : Type} [Keyed α]

/-- No row of `before` is missing in `after`.  Its fixed part is the same, and
so is all of it if it is closed. -/
def Lasts (fixed : α → β) (closed : α → Prop) (before after : Table α) :
    Prop :=
  ∀ key a, before.get? key = some a →
    ∃ b, after.get? key = some b ∧ fixed b = fixed a ∧ (closed a → b = a)

/-- A row, if there is one, that may be put into a table: a row that it
replaces has the same fixed part and is not closed. -/
def Takes (fixed : α → β) (closed : α → Prop) (t : Table α)
    (row : Option α) : Prop :=
  ∀ a, row = some a → ∀ old, t.get? (Keyed.key a) = some old →
    fixed a = fixed old ∧ ¬ closed old

variable {fixed : α → β} {closed : α → Prop}

theorem Lasts.refl (t : Table α) : Lasts fixed closed t t :=
  fun _ a found => ⟨a, found, rfl, fun _ => rfl⟩

theorem Lasts.trans {first second third : Table α}
    (early : Lasts fixed closed first second)
    (late : Lasts fixed closed second third) :
    Lasts fixed closed first third := by
  intro key a found
  obtain ⟨b, foundNext, fixedNext, same⟩ := early key a found
  obtain ⟨c, foundLast, fixedLast, sameLast⟩ := late key b foundNext
  refine ⟨c, foundLast, fixedLast.trans fixedNext, ?_⟩
  intro isClosed
  have unchanged : b = a := same isClosed
  subst unchanged
  exact sameLast isClosed

theorem Lasts.putAny {t : Table α} {row : Option α}
    (takes : Takes fixed closed t row) :
    Lasts fixed closed t (t.putAny row) := by
  cases row with
  | none =>
      exact Lasts.refl t
  | some a =>
      intro key old found
      by_cases here : Keyed.key a = key
      · subst here
        obtain ⟨sameFixed, stillOpen⟩ := takes a rfl old found
        exact ⟨a, get?_put_self t a, sameFixed,
          fun isClosed => absurd isClosed stillOpen⟩
      · have untouched : (t.put a).get? key = some old := by
          rw [get?_put_of_ne t here]
          exact found
        exact ⟨old, untouched, rfl, fun _ => rfl⟩

theorem takes_none {t : Table α} : Takes fixed closed t none := by
  intro a absent
  cases absent

theorem takes_new {t : Table α} {a : α}
    (new : t.get? (Keyed.key a) = none) :
    Takes fixed closed t (some a) := by
  intro b same old found
  cases same
  rw [new] at found
  cases found

theorem takes_copy {t : Table α} {key : String} {a existing : α}
    (found : t.get? key = some existing)
    (sameKey : Keyed.key a = Keyed.key existing)
    (sameFixed : fixed a = fixed existing) (stillOpen : ¬ closed existing) :
    Takes fixed closed t (some a) := by
  intro b same old foundOld
  cases same
  rw [sameKey, get?_key found] at foundOld
  cases foundOld
  exact ⟨sameFixed, stillOpen⟩

/-- Where only the key is fixed and no row is closed, any row may be put in. -/
theorem takes_any {t : Table α} {row : Option α} :
    Takes Keyed.key (fun _ => False) t row :=
  fun _ _ _ found => ⟨(key_of_get? found).symm, fun isClosed => isClosed⟩

end Table

/-! ## What is fixed -/

/-- Where an entity came from: what is known of it since it was made.  What no
single employee owns has no employee. -/
structure Origin where
  id : String
  employee : Option String
  organization : Option String
  createdAt : Instant
deriving DecidableEq, Repr

namespace AttendanceRecord

def origin (r : AttendanceRecord) : Origin :=
  ⟨r.id, some r.employee, r.organization, r.createdAt⟩

/-- A record that was decided on. -/
def IsClosed (r : AttendanceRecord) : Prop :=
  r.state = .approved ∨ r.state = .rejected

end AttendanceRecord

namespace LeaveRequest

def origin (r : LeaveRequest) : Origin :=
  ⟨r.id, some r.employee, r.organization, r.createdAt⟩

/-- A request that was decided on. -/
def IsClosed (r : LeaveRequest) : Prop :=
  r.state = .approved ∨ r.state = .rejected ∨ r.state = .canceled

end LeaveRequest

def WorkSchedule.origin (s : WorkSchedule) : Origin :=
  ⟨s.id, some s.employee, s.organization, s.createdAt⟩

def DeductionProfile.origin (p : DeductionProfile) : Origin :=
  ⟨p.id, none, p.organization, p.createdAt⟩

namespace PayrollRun

/-- All that a confirmation leaves as it was. -/
structure Figures where
  origin : Origin
  periodStart : ZonedTime
  periodEnd : ZonedTime
  totals : PayableMinutes
  grossPay : Int
  deductions : Option DeductionSummary
  netPay : Option Int
  sourceRecordCount : Nat

def figures (r : PayrollRun) : Figures :=
  { origin := ⟨r.id, r.employee, r.organization, r.createdAt⟩
    periodStart := r.periodStart
    periodEnd := r.periodEnd
    totals := r.totals
    grossPay := r.grossPay
    deductions := r.deductions
    netPay := r.netPay
    sourceRecordCount := r.sourceRecordCount }

def IsClosed (r : PayrollRun) : Prop :=
  r.state = .confirmed

end PayrollRun

/-- What a later store has of an earlier one.  Schedules and organizations are
closed from the start. -/
structure Store.Continues (before after : Store) : Prop where
  attendance : Table.Lasts AttendanceRecord.origin AttendanceRecord.IsClosed
    before.attendance after.attendance
  leave : Table.Lasts LeaveRequest.origin LeaveRequest.IsClosed
    before.leave after.leave
  schedules : Table.Lasts WorkSchedule.origin (fun _ => True)
    before.schedules after.schedules
  profiles : Table.Lasts DeductionProfile.origin (fun _ => False)
    before.profiles after.profiles
  payroll : Table.Lasts PayrollRun.figures PayrollRun.IsClosed
    before.payroll after.payroll
  balances : Table.Lasts Keyed.key (fun _ => False)
    before.balances after.balances
  employees : Table.Lasts Keyed.key (fun _ => False)
    before.employees after.employees
  organizations : Table.Lasts Keyed.key (fun _ => True)
    before.organizations after.organizations
  decisions : before.decisions <+: after.decisions
  audit : before.audit <+: after.audit
  events : before.events <+: after.events

namespace Store.Continues

theorem refl (st : Store) : st.Continues st where
  attendance := .refl _
  leave := .refl _
  schedules := .refl _
  profiles := .refl _
  payroll := .refl _
  balances := .refl _
  employees := .refl _
  organizations := .refl _
  decisions := List.prefix_rfl
  audit := List.prefix_rfl
  events := List.prefix_rfl

theorem trans {first second third : Store} (early : first.Continues second)
    (late : second.Continues third) : first.Continues third where
  attendance := early.attendance.trans late.attendance
  leave := early.leave.trans late.leave
  schedules := early.schedules.trans late.schedules
  profiles := early.profiles.trans late.profiles
  payroll := early.payroll.trans late.payroll
  balances := early.balances.trans late.balances
  employees := early.employees.trans late.employees
  organizations := early.organizations.trans late.organizations
  decisions := early.decisions.trans late.decisions
  audit := early.audit.trans late.audit
  events := early.events.trans late.events

end Store.Continues

/-! ## Deeds -/

/-- A write that replaces open rows only, and these by copies.  Ledgers and
employees stay open for good, with nothing fixed but the key. -/
structure Write.Extends (st : Store) (w : Write) : Prop where
  record : Table.Takes AttendanceRecord.origin AttendanceRecord.IsClosed
    st.attendance w.record := by exact Table.takes_none
  leave : Table.Takes LeaveRequest.origin LeaveRequest.IsClosed
    st.leave w.leave := by exact Table.takes_none
  schedule : Table.Takes WorkSchedule.origin (fun _ => True)
    st.schedules w.schedule := by exact Table.takes_none
  profile : Table.Takes DeductionProfile.origin (fun _ => False)
    st.profiles w.profile := by exact Table.takes_none
  run : Table.Takes PayrollRun.figures PayrollRun.IsClosed
    st.payroll w.run := by exact Table.takes_none
  organization : Table.Takes Keyed.key (fun _ => True)
    st.organizations w.organization := by exact Table.takes_none

theorem AttendanceRecord.not_isClosed {r : AttendanceRecord}
    (pending : r.state = .pending) : ¬ r.IsClosed := by
  simp [IsClosed, pending]

theorem LeaveRequest.not_isClosed {r : LeaveRequest}
    (pending : r.state = .pending) : ¬ r.IsClosed := by
  simp [IsClosed, pending]

theorem PayrollRun.not_isClosed {r : PayrollRun}
    (previewed : r.state = .previewed) : ¬ r.IsClosed := by
  simp [IsClosed, previewed]

/-- The next version of a profile has the origin of the one before. -/
theorem Store.drafted_origin {st : Store} {d : ProfileDraft} {now : Instant}
    {old : DeductionProfile} (found : st.profiles.get? d.id = some old) :
    (st.drafted d now).origin = old.origin := by
  have own : old.id = d.id := Table.key_of_get? found
  rw [drafted, found]
  simp [DeductionProfile.origin, ProfileDraft.revise, ProfileDraft.create,
    own]

/-- Every deed replaces open rows only. -/
theorem Call.Does.extends {ctx : Context} {st : Store} {actor : Actor}
    {scope : TenantScope} {c : Call} {w : Write} {notice : Notice}
    {reply : Reply} (does : c.Does ctx st actor scope w notice reply)
    (new : ctx.NewIds st) : w.Extends st := by
  cases does with
  | createOrganization permitted platform named fresh =>
      exact { organization := Table.takes_new fresh }
  | createEmployee =>
      exact { }
  | updateEmployee =>
      exact { }
  | createRecord permitted shift found visible own made =>
      subst made
      exact { record := Table.takes_new new.record }
  | updateRecord permitted found visible own pending shift =>
      have stillOpen := AttendanceRecord.not_isClosed pending
      exact { record := Table.takes_copy found rfl rfl stillOpen }
  | approveRecord permitted found visible pending =>
      have stillOpen := AttendanceRecord.not_isClosed pending
      exact { record := Table.takes_copy found rfl rfl stillOpen }
  | rejectRecord permitted found visible pending =>
      have stillOpen := AttendanceRecord.not_isClosed pending
      exact { record := Table.takes_copy found rfl rfl stillOpen }
  | createLeave permitted span found visible own made free =>
      subst made
      exact { leave := Table.takes_new new.leave }
  | updateLeave permitted found visible pending own made span free =>
      subst made
      have stillOpen := LeaveRequest.not_isClosed pending
      exact { leave := Table.takes_copy found rfl rfl stillOpen }
  | approveLeave permitted found visible pending =>
      have stillOpen := LeaveRequest.not_isClosed pending
      exact { leave := Table.takes_copy found rfl rfl stillOpen }
  | rejectLeave permitted reasoned found visible pending =>
      have stillOpen := LeaveRequest.not_isClosed pending
      exact { leave := Table.takes_copy found rfl rfl stillOpen }
  | cancelLeave permitted found visible pending own =>
      have stillOpen := LeaveRequest.not_isClosed pending
      exact { leave := Table.takes_copy found rfl rfl stillOpen }
  | readBalance =>
      exact { }
  | settleAccrual =>
      exact { }
  | createSchedule permitted ordered bounded found visible made free =>
      subst made
      exact { schedule := Table.takes_new new.schedule }
  | previewPayroll =>
      exact { run := Table.takes_new new.run }
  | previewPayrollWithDeductions =>
      exact { run := Table.takes_new new.run }
  | confirmRun permitted found visible previewed =>
      have stillOpen := PayrollRun.not_isClosed previewed
      exact { run := Table.takes_copy found rfl rfl stillOpen }
  | readProfile =>
      exact { }
  | @upsertProfile id input p payload permitted valid within made =>
      subst made
      have own := st.drafted_id (input.toDraft id scope) ctx.now
      refine { profile := ?_ }
      intro p same old found
      cases same
      have before : st.profiles.get? (input.toDraft id scope).id =
          some old := by
        rw [← own]
        exact found
      exact ⟨Store.drafted_origin before, fun isClosed => isClosed⟩

/-! ## Steps and runs -/

/-- A write of this kind continues the store, as long as the logs only
grow. -/
theorem Write.Extends.continues {st : Store} {w : Write}
    (extension : w.Extends st) {audit : List AuditEntry}
    {events : List DomainEvent} (grownAudit : st.audit <+: audit)
    (grownEvents : st.events <+: events) :
    st.Continues
      { st.write w with audit := audit, events := events } where
  attendance := .putAny extension.record
  leave := .putAny extension.leave
  schedules := .putAny extension.schedule
  profiles := .putAny extension.profile
  payroll := .putAny extension.run
  balances := .putAny Table.takes_any
  employees := .putAny Table.takes_any
  organizations := .putAny extension.organization
  decisions := List.prefix_append _ _
  audit := grownAudit
  events := grownEvents

/-- What a step leaves continues what it found. -/
theorem Step.continues {s : Step} (new : s.ctx.NewIds s.before) :
    s.before.Continues s.after := by
  have grownAudit : s.before.audit <+: s.after.audit := by
    rw [s.after_audit]
    exact List.prefix_append _ _
  have grownEvents : s.before.events <+: s.after.events := by
    rw [s.after_events]
    exact List.prefix_append _ _
  rcases s.after_cases with
    ⟨_, audit, events, left⟩ |
    ⟨actor, scope, w, notice, reply, audit, events, _, does, left⟩
  · have nothing : Write.Extends s.before {} := { }
    rw [← Store.write_nothing s.before] at left
    rw [left] at grownAudit grownEvents ⊢
    exact nothing.continues grownAudit grownEvents
  · rw [left] at grownAudit grownEvents ⊢
    exact (does.extends new).continues grownAudit grownEvents

/-- What lasts through a run, whatever becomes of its sinks.  Each step
continues the store that it found, and so does the store at the end the one
that each step left.  Nothing is removed from a table or a log, what was
decided, confirmed or assigned stays as it is, and so do the origins of rows
and the figures of payroll runs. -/
theorem continues_of_run {past : List Step} {st : Store}
    (run : Run past st) :
    ∀ s ∈ past, s.before.Continues s.after ∧ s.after.Continues st :=
  run.relates .refl .trans fun _ new => Step.continues new

/-- Somebody else is hired while the audit log takes nothing. -/
def hiringUnlogged : Step :=
  { officeStep approving.after "5"
      (.createEmployee ⟨"emp-002", none, none, none, none⟩) with
    sinks := ⟨some "the log is full", none⟩ }

/-- The leave that was approved is rejected, too late. -/
def rejectingLate : Step :=
  officeStep hiringUnlogged.after "6" (.rejectLeave "2" "too late")

theorem run_rejectingLate :
    Run (rejectingLate :: hiringUnlogged :: officeRun)
      rejectingLate.after := by
  refine .step (.step run_officeRun ?_) ?_
  · exact ⟨rfl, by decide, rfl, by decide, by decide⟩
  · exact ⟨rfl, by decide, rfl, by decide, by decide⟩

/-- An approved leave stays as it is through a fault of the log, after which
somebody is employed all the same, and through an attempt to reject it. -/
theorem continues_of_rejectingLate :
    hiringUnlogged.succeeds = false ∧
      (∃ e, rejectingLate.after.employees.get? "emp-002" = some e) ∧
      ∃ r, approving.after.leave.get? "2" = some r ∧
        r.state = .approved ∧
        rejectingLate.after.leave.get? "2" = some r := by
  have member : approving ∈ rejectingLate :: hiringUnlogged :: officeRun :=
    List.mem_cons_of_mem _ (List.mem_cons_of_mem _ List.mem_cons_self)
  have kept := (continues_of_run run_rejectingLate approving member).2
  obtain ⟨r, found, approved⟩ : ∃ r,
      approving.after.leave.get? "2" = some r ∧ r.state = .approved := by
    exact ⟨_, rfl, by decide⟩
  obtain ⟨latest, foundLatest, _, unchanged⟩ := kept.leave "2" r found
  rw [unchanged (Or.inl approved)] at foundLatest
  exact ⟨by decide, ⟨_, rfl⟩, r, found, approved, foundLatest⟩

end Workforce
