import Workforce.Proofs.Attendance.Split
import Workforce.Proofs.Run

/-!
# The trail that operations leave

Every operation writes its own audit entry, and the event with it, at the very
end.  This module shows, for runs whose sinks are in order, that no operation
which comes to its end forgets to do so or does it twice:

* a step that changes something, and one that succeeds and is more than a
  look, appends exactly one entry, made by who asked and about the entity that
  was written or read;
* one kind of step does not come to its end: a shift near the end of the time
  that is kept is stored, and then its minutes cannot be divided.  Of that shift
  nothing is told (`Step.LeavesUntold`);
* the events are those that the audit log has to tell, in its order.

The events are computed here from the audit log alone (`eventsOf`).  That they
are what was published rests on each action having one name in the log and one
as an event.
-/

namespace Workforce

/-! ## The events that an audit log has to tell -/

/-- The actions that no event tells of. -/
def silentActions : List String :=
  ["leave.updated", "leave.balance_read", "payroll.deduction_profile.read",
    "payroll.deductions.preview_disabled",
    "payroll.deductions.preview_conflict"]

namespace AuditEntry

/-- Whether an event tells of an entry. -/
def isPublished (entry : AuditEntry) : Bool :=
  !silentActions.contains entry.action

/-- The name of the event that tells of an entry: that of the action with its
version. -/
def eventName (entry : AuditEntry) : String :=
  -- Two actions have an underscore where their events have a dot.
  if entry.action = "leave.accrual_settled" then
    "leave.accrual.settled.v1"
  else if entry.action = "payroll.deductions_calculated" then
    "payroll.deductions.calculated.v1"
  else
    entry.action ++ ".v1"

/-- The event that tells of an entry. -/
def event (entry : AuditEntry) : DomainEvent :=
  { name := entry.eventName
    occurredAt := entry.recordedAt
    entityType := entry.entityType
    entity := entry.entity
    role := some entry.role
    actor := some entry.actor
    payload := entry.payload }

end AuditEntry

/-- The events that tell of an audit log, in its order. -/
def eventsOf (audit : List AuditEntry) : List DomainEvent :=
  (audit.filter AuditEntry.isPublished).map AuditEntry.event

theorem eventsOf_append (earlier later : List AuditEntry) :
    eventsOf (earlier ++ later) = eventsOf earlier ++ eventsOf later := by
  rw [eventsOf, List.filter_append, List.map_append]
  rfl

/-- What a notice is published as can be told from its audit entry. -/
theorem Notice.toList_event (n : Notice) :
    n.event.toList = eventsOf [n.auditEntry] := by
  obtain ⟨action, actor, entity, organization, payload, time⟩ := n
  cases action with
  | _ =>
      simp [event, auditEntry, Action.eventName, Action.name, eventsOf,
        AuditEntry.isPublished, silentActions, AuditEntry.event,
        AuditEntry.eventName]

/-- Where both sinks are in order, the events that an effect adds are those of
the entries that it adds. -/
theorem Effect.published_working {α : Type} (e : Effect α) :
    e.published .working = eventsOf (e.entries .working) := by
  obtain ⟨st, notice, reply⟩ := e
  cases notice with
  | none =>
      rfl
  | some n =>
      exact n.toList_event

/-! ## What a step adds to the logs -/

/-- A store without its logs of audit entries and events. -/
def Store.entities (st : Store) : Store :=
  { st with audit := [], events := [] }

namespace Step

/-- Nothing that a call comes to is in the logs yet. -/
theorem effect_logs (s : Step) :
    (s.call.effect s.ctx s.before).store.audit = s.before.audit ∧
      (s.call.effect s.ctx s.before).store.events = s.before.events := by
  have comes := Call.effect_comes s.ctx s.before s.call
  generalize s.call.effect s.ctx s.before = effect at comes
  cases comes with
  | _ =>
      exact ⟨rfl, rfl⟩

theorem after_audit (s : Step) :
    s.after.audit = s.before.audit ++
      (s.call.effect s.ctx s.before).entries s.sinks := by
  have recorded : s.after = _ :=
    Effect.record_store (s.call.effect s.ctx s.before) s.sinks
  rw [recorded, ← s.effect_logs.1]

theorem after_events (s : Step) :
    s.after.events = s.before.events ++
      (s.call.effect s.ctx s.before).published s.sinks := by
  have recorded : s.after = _ :=
    Effect.record_store (s.call.effect s.ctx s.before) s.sinks
  rw [recorded, ← s.effect_logs.2]

theorem after_entities (s : Step) :
    s.after.entities =
      (s.call.effect s.ctx s.before).store.entities := by
  obtain ⟨audit, events, left⟩ := s.after_eq
  rw [left]
  rfl

/-- Where both sinks are in order, events keep telling of the audit log. -/
theorem events_eq {s : Step} (working : s.sinks = .working)
    (told : s.before.events = eventsOf s.before.audit) :
    s.after.events = eventsOf s.after.audit := by
  rw [s.after_events, s.after_audit, working, eventsOf_append, told,
    Effect.published_working]

end Step

theorem Run.events_eq {past : List Step} {st : Store} (run : Run past st)
    (working : ∀ s ∈ past, s.sinks = .working) :
    st.events = eventsOf st.audit := by
  induction run with
  | start =>
      rfl
  | @step past s run new inductionHypothesis =>
      have told := inductionHypothesis
        fun other member => working other (List.mem_cons_of_mem s member)
      exact Step.events_eq (working s List.mem_cons_self) told

/-! ## What a call is about -/

/-- An entity as the audit log knows it. -/
structure Subject where
  entityType : String
  id : String
  organization : Option String
deriving DecidableEq, Repr

/-- `Concerns st w reply subject`: of all that a call writes into a store and
replies, `subject` is what it is about.  That is the request for an approval,
and the employee for what is done with a ledger. -/
inductive Concerns (st : Store) : Write → Reply → Subject → Prop
  | record (r : AttendanceRecord) :
      Concerns st { record := some r } (.record r)
        ⟨"AttendanceRecord", r.id, r.organization⟩
  | leave (r : LeaveRequest) (decision : Option LeaveDecision) :
      Concerns st { leave := some r, decision } (.leave r)
        ⟨"LeaveRequest", r.id, r.organization⟩
  | approval (r : LeaveRequest) (d : LeaveDecision) (b : LeaveBalance) :
      Concerns st { leave := some r, decision := some d, balance := some b }
        (.approval ⟨r, b⟩) ⟨"LeaveRequest", r.id, r.organization⟩
  | ledger {e : Employee} {b : LeaveBalance}
      (found : st.employees.get? e.id = some e) (own : b.employee = e.id) :
      Concerns st { balance := some b } (.balance b)
        ⟨"LeaveBalanceProjection", e.id, e.organization⟩
  | schedule (s : WorkSchedule) :
      Concerns st { schedule := some s } (.schedule s)
        ⟨"WorkSchedule", s.id, s.organization⟩
  | preview (p : PayrollPreview) :
      Concerns st { run := some p.run } (.preview p)
        ⟨"PayrollRun", p.run.id, p.run.organization⟩
  | confirmation (r : PayrollRun) :
      Concerns st { run := some r } (.run r)
        ⟨"PayrollRun", r.id, r.organization⟩
  | profile (p : DeductionProfile) :
      Concerns st { profile := some p } (.profile p)
        ⟨"DeductionProfile", p.id, p.organization⟩
  | profileRead {p : DeductionProfile}
      (found : st.profiles.get? p.id = some p) :
      Concerns st {} (.profile p) ⟨"DeductionProfile", p.id, p.organization⟩
  | employee (e : Employee) :
      Concerns st { employee := some e } (.employee e)
        ⟨"Employee", e.id, e.organization⟩
  | organization (o : Organization) :
      Concerns st { organization := some o } (.organization o)
        ⟨"Organization", o.id, some o.id⟩

/-- An entry made by an actor about a subject. -/
structure AuditEntry.Tells (entry : AuditEntry) (caller : Actor)
    (subject : Subject) : Prop where
  actor : entry.actor = caller.id
  role : entry.role = caller.role
  entityType : entry.entityType = subject.entityType
  entity : entry.entity = some subject.id
  organization : entry.organization = subject.organization

/-- Every deed is told as what it is about. -/
theorem Call.Does.tells {ctx : Context} {st : Store} {actor : Actor}
    {scope : TenantScope} {c : Call} {w : Write} {notice : Notice}
    {reply : Reply} (does : c.Does ctx st actor scope w notice reply) :
    ∃ subject, Concerns st w reply subject ∧
      notice.auditEntry.Tells actor subject := by
  cases does with
  | createOrganization =>
      exact ⟨_, .organization _, rfl, rfl, rfl, rfl, rfl⟩
  | createEmployee =>
      exact ⟨_, .employee _, rfl, rfl, rfl, rfl, rfl⟩
  | updateEmployee =>
      exact ⟨_, .employee _, rfl, rfl, rfl, rfl, rfl⟩
  | createRecord =>
      exact ⟨_, .record _, rfl, rfl, rfl, rfl, rfl⟩
  | updateRecord =>
      exact ⟨_, .record _, rfl, rfl, rfl, rfl, rfl⟩
  | approveRecord =>
      exact ⟨_, .record _, rfl, rfl, rfl, rfl, rfl⟩
  | rejectRecord =>
      exact ⟨_, .record _, rfl, rfl, rfl, rfl, rfl⟩
  | createLeave =>
      exact ⟨_, .leave _ _, rfl, rfl, rfl, rfl, rfl⟩
  | updateLeave =>
      exact ⟨_, .leave _ _, rfl, rfl, rfl, rfl, rfl⟩
  | approveLeave =>
      exact ⟨_, .approval _ _ _, rfl, rfl, rfl, rfl, rfl⟩
  | rejectLeave =>
      exact ⟨_, .leave _ _, rfl, rfl, rfl, rfl, rfl⟩
  | cancelLeave =>
      exact ⟨_, .leave _ _, rfl, rfl, rfl, rfl, rfl⟩
  | @readBalance id e permitted found =>
      have own := Call.openedLedger_employee ctx st e.id e.organization
      exact ⟨_, .ledger (Table.get?_key found) own, rfl, rfl, rfl, rfl, rfl⟩
  | settleAccrual permitted terms found visible settled =>
      have own := LeaveBalance.settle_employee settled
      rw [Call.openedLedger_employee] at own
      exact ⟨_, .ledger (Table.get?_key found) own, rfl, rfl, rfl, rfl, rfl⟩
  | createSchedule =>
      exact ⟨_, .schedule _, rfl, rfl, rfl, rfl, rfl⟩
  | @previewPayroll input priced =>
      exact ⟨_, .preview (priced.toPreview (priced.toRun ctx scope input)),
        rfl, rfl, rfl, rfl, rfl⟩
  | @previewPayrollWithDeductions input request priced summary =>
      exact ⟨_, .preview
          (priced.toPreview (Call.netRun ctx scope input priced summary)),
        rfl, rfl, rfl, rfl, rfl⟩
  | confirmRun =>
      exact ⟨_, .confirmation _, rfl, rfl, rfl, rfl, rfl⟩
  | readProfile permitted found =>
      exact ⟨_, .profileRead (Table.get?_key found),
        rfl, rfl, rfl, rfl, rfl⟩
  | upsertProfile =>
      exact ⟨_, .profile _, rfl, rfl, rfl, rfl, rfl⟩

/-! ## What a step must leave behind -/

namespace Step

/-- Whether a step owes the audit log an entry: it has changed something, or
it has succeeded and was more than a look. -/
def OwesEntry (s : Step) : Prop :=
  s.after.entities ≠ s.before.entities ∨
    s.succeeds = true ∧ s.call.looksOnly = false

/-- A step that succeeded and appended one entry, made by who asked and about
what the step concerns. -/
def LeavesEntry (s : Step) : Prop :=
  ∃ actor w reply subject entry,
    s.ctx.actor = some actor ∧ s.reply = .ok reply ∧
    s.after.entities = (s.before.write w).entities ∧
    Concerns s.before w reply subject ∧ entry.Tells actor subject ∧
    s.after.audit = s.before.audit ++ [entry]

/-- A step that stopped half-way: a new shift is stored that cannot be
divided, as it begins on the last day that is kept, and nothing else is left of
the step, neither an entry nor an event. -/
def LeavesUntold (s : Step) : Prop :=
  ∃ input shift, s.call = .createSchedule input ∧
    s.reply = .error (.overflow .instant) ∧
    s.before.schedules.get? shift.id = none ∧
    ¬ shift.workInterval.Splittable ∧
    Instant.latest < input.start.instant.addMinutes 1440 ∧
    s.after = s.before.write { schedule := some shift }

/-- Where both sinks are in order, every step that comes to its end pays what
it owes. -/
theorem leavesEntry {s : Step} (working : s.sinks = .working)
    (ended : s.halts = false) (owes : s.OwesEntry) : s.LeavesEntry := by
  have entities := s.after_entities
  have audit := s.after_audit
  have fails := @succeeds_of_error s
  have replied := s.reply_of_working working
  have comes := Call.effect_comes s.ctx s.before s.call
  rw [working] at audit
  generalize s.call.effect s.ctx s.before = effect
    at entities audit fails replied comes
  cases comes with
  | failed failure =>
      rcases owes with changed | ⟨succeeded, _⟩
      · exact absurd entities changed
      · rw [fails rfl] at succeeded
        cases succeeded
  | looked reply only =>
      rcases owes with changed | ⟨_, more⟩
      · exact absurd entities changed
      · rw [only] at more
        cases more
  | warned authorized call conflict silent =>
      rcases owes with changed | ⟨succeeded, _⟩
      · exact absurd entities changed
      · rw [fails rfl] at succeeded
        cases succeeded
  | halted authorized call does beyond =>
      rw [halts_of_overflow call replied] at ended
      cases ended
  | @done actor scope w notice reply authorized does =>
      obtain ⟨subject, concerns, tells⟩ := does.tells
      have called := (Context.authorize_eq_ok.1 authorized).1
      exact ⟨actor, w, reply, subject, notice.auditEntry, called, replied,
        entities, concerns, tells, audit⟩

/-- What a step that does not come to its end leaves. -/
theorem leavesUntold {s : Step} (working : s.sinks = .working)
    (new : s.ctx.NewIds s.before) (halted : s.halts = true) :
    s.LeavesUntold := by
  obtain ⟨input, cause, call, overflow⟩ := call_of_halts halted
  have replied := s.reply_of_working working
  have recorded : s.after =
      ((s.call.effect s.ctx s.before).record s.sinks).2 :=
    rfl
  have comes := Call.effect_comes s.ctx s.before s.call
  generalize s.call.effect s.ctx s.before = effect
    at replied recorded comes
  rw [overflow] at replied
  cases comes with
  | failed failure whole =>
      cases replied
      rw [call] at whole
      cases whole
  | looked reply only =>
      cases replied
  | warned authorized other conflict silent =>
      cases replied
  | done authorized does =>
      cases replied
  | @halted actor scope given shift notice _ authorized assigns does beyond =>
      cases replied
      rw [call] at assigns does
      cases assigns
      cases does with
      | createSchedule permitted ordered bounded found visible made free =>
          subst made
          rw [WorkInterval.split_eq] at beyond
          split at beyond
          · cases beyond
          · rename_i divided
            cases beyond
            refine ⟨input, _, call, overflow, new.schedule, divided, ?_,
              recorded⟩
            exact Instant.lt_iff.2 (Int.not_le.1 fun early =>
              divided (WorkInterval.splittable_of_early early))

end Step

/-- The trail of a run whose sinks are in order.  Every step that comes to its
end and changes something, and every one that succeeds and is more than a look,
appends exactly one entry, made by who asked and about what the step concerns.
A step that stops half-way has assigned a shift of the last day that is kept,
and leaves no entry.  After every step the events are those that tell of the
audit log. -/
theorem trail_of_run {past : List Step} {st : Store} (run : Run past st)
    (working : ∀ s ∈ past, s.sinks = .working) :
    (∀ s ∈ past, s.halts = false → s.OwesEntry → s.LeavesEntry) ∧
      (∀ s ∈ past, s.halts = true → s.LeavesUntold) ∧
      ∀ s ∈ past, s.after.events = eventsOf s.after.audit := by
  refine ⟨?_, ?_, ?_⟩
  · intro s member ended owes
    exact Step.leavesEntry (working s member) ended owes
  · intro s member halted
    exact Step.leavesUntold (working s member) (run.newIds s member) halted
  · intro s member
    obtain ⟨later, earlier, split, upto⟩ := run.upto member
    apply upto.events_eq
    intro other before
    apply working
    rw [split]
    exact List.mem_append_right later before

/-- A ledger is looked at. -/
def checking : Step :=
  officeStep approving.after "5" (.readBalance "emp-001")

theorem run_checking : Run (checking :: officeRun) checking.after :=
  .step run_officeRun ⟨rfl, by decide, rfl, by decide, by decide⟩

/-- A shift of the last two minutes that are kept is assigned. -/
def lateAssigning : Step :=
  officeStep checking.after "6" (.createSchedule
    ⟨"emp-001", .ofInstant ⟨Instant.latest.nanoseconds + 1 - 90 * 10 ^ 9⟩,
      .ofInstant Instant.latest, 0, false, none⟩)

/-- Four changes and a look at a ledger leave an entry each, and all but the
look an event.  The shift is stored, and leaves none. -/
theorem trail_of_checking :
    checking.LeavesEntry ∧
      checking.after.audit.map AuditEntry.action =
        ["employee.created", "leave.requested", "leave.accrual_settled",
          "leave.approved", "leave.balance_read"] ∧
      checking.after.events.map DomainEvent.name =
        ["employee.created.v1", "leave.requested.v1",
          "leave.accrual.settled.v1", "leave.approved.v1"] ∧
      checking.after.events = eventsOf checking.after.audit ∧
      lateAssigning.LeavesUntold := by
  have run : Run (lateAssigning :: checking :: officeRun)
      lateAssigning.after :=
    .step run_checking ⟨rfl, by decide, rfl, by decide, by decide⟩
  have working : ∀ s ∈ lateAssigning :: checking :: officeRun,
      s.sinks = .working := by
    simp [officeRun, lateAssigning, checking, approving, settling, asking,
      hiring, officeStep]
  obtain ⟨entries, untold, events⟩ := trail_of_run run working
  have earlier : checking ∈ lateAssigning :: checking :: officeRun :=
    List.mem_cons_of_mem _ List.mem_cons_self
  have more : checking.succeeds = true ∧ checking.call.looksOnly = false := by
    decide
  exact ⟨entries checking earlier (by decide) (Or.inr more), by decide,
    by decide, events checking earlier,
    untold lateAssigning List.mem_cons_self (by decide)⟩

/-- The shift is in no table before that step and in one after it, so that the
step owes an entry; but there is none. -/
theorem lateAssigning_untold :
    Run (lateAssigning :: checking :: officeRun) lateAssigning.after ∧
      lateAssigning.sinks = .working ∧ lateAssigning.OwesEntry ∧
      lateAssigning.after.audit = checking.after.audit := by
  refine ⟨.step run_checking ⟨rfl, by decide, rfl, by decide, by decide⟩,
    rfl, Or.inl ?_, rfl⟩
  intro same
  have rows : lateAssigning.after.entities.schedules.rows =
      lateAssigning.before.entities.schedules.rows :=
    congrArg (fun st : Store => st.schedules.rows) same
  revert rows
  decide

end Workforce
