import Workforce.Proofs.Outcome
import Workforce.Proofs.Write
import Workforce.Store.Call

/-!
# Callers of the store take turns

Callers who bring no permissions ask the store for one thing at a time, and
what one of them asks for may come between any two requests of another.  A
request with all that it meets is a `Turn`, and any order of the requests of
any number of callers is a list of turns.

* `StoreCall.Does` lists what a request that succeeds writes, together with
  what it found: an edit and a decision replace a row that is in its first
  state, whatever the caller thinks of it.
* `Turn.after_cases` says that a turn is one of these, or fails and leaves the
  store as it was.

Statements about all turns split on these cases and need not look at the store
itself.
-/

namespace Workforce

/-! ## What requests write -/

namespace StoreCall

/-- Whether a request writes nothing but, perhaps, an entry of the audit
log. -/
def looksOnly : StoreCall → Bool
  | findRecord _ => true
  | listRecords _ _ _ => true
  | findLeave _ => true
  | listLeave _ _ _ => true
  | overlappingLeave _ _ _ => true
  | listDecisions _ => true
  | findProfile _ => true
  | overlappingSchedules _ _ _ => true
  | listSchedules _ _ => true
  | findRun _ => true
  | listRuns _ _ _ => true
  | findEmployee _ => true
  | listEmployees _ => true
  | findOrganization _ => true
  | listOrganizations _ => true
  | appendAudit _ => true
  | auditEntries => true
  | events => true
  | _ => false

/-- What a request writes when it succeeds, with what it found. -/
inductive Does (st : Store) (now : Instant) : StoreCall → Write → Prop
  | insertRecord {r : AttendanceRecord} :
      Does st now (.insertRecord r) { record := some r }
  | updateRecord {r old : AttendanceRecord}
      (found : st.attendance.get? r.id = some old)
      (pending : old.state = .pending) :
      Does st now (.updatePendingRecord r) { record := some r }
  | insertLeave {r : LeaveRequest} :
      Does st now (.insertLeave r) { leave := some r }
  | updateLeave {r old : LeaveRequest}
      (found : st.leave.get? r.id = some old)
      (pending : old.state = .pending) :
      Does st now (.updatePendingLeave r) { leave := some r }
  | recordDecision {r old : LeaveRequest} {d : LeaveDecision}
      (found : st.leave.get? r.id = some old)
      (pending : old.state = .pending) :
      Does st now (.recordDecision r d)
        { leave := some r, decision := some d }
  | approveLeave {r old : LeaveRequest} {d : LeaveDecision}
      {grantedDays : Int} (found : st.leave.get? r.id = some old)
      (pending : old.state = .pending) :
      Does st now (.approveLeave r d grantedDays)
        { leave := some r
          decision := some d
          balance := some
            ((st.ledger r.employee r.organization grantedDays now).use
              r.days now) }
  | openBalance {employee : String} {organization : Option String}
      {grantedDays : Int} :
      Does st now (.openBalance employee organization grantedDays)
        { balance :=
            some (st.ledger employee organization grantedDays now) }
  | settleBalance {employee : String} {organization : Option String}
      {year annualGrantDays carryOverCapDays grantedDays : Int}
      {terms : Settlement} {b : LeaveBalance}
      (settled :
        (st.ledger employee organization grantedDays now).settle terms now =
          .ok b) :
      Does st now (.settleBalance employee organization year annualGrantDays
        carryOverCapDays grantedDays) { balance := some b }
  | upsertProfile {scope : TenantScope} {draft : Store.ProfileDraft} :
      Does st now (.upsertProfile scope draft)
        { profile := some (st.drafted draft now) }
  | insertSchedule {s : WorkSchedule} :
      Does st now (.insertSchedule s) { schedule := some s }
  | insertRun {r : PayrollRun} :
      Does st now (.insertRun r) { run := some r }
  | confirmRun {id actor : String} {time : Instant} {r : PayrollRun}
      (found : st.payroll.get? id = some r)
      (previewed : r.state = .previewed) :
      Does st now (.confirmRun id actor time)
        { run := some (Store.confirmedRun r actor time) }
  | insertEmployee {e : Employee} :
      Does st now (.insertEmployee e) { employee := some e }
  | updateEmployee {e : Employee} :
      Does st now (.updateEmployee e) { employee := some e }
  | insertOrganization {o : Organization} :
      Does st now (.insertOrganization o) { organization := some o }
  | looks {c : StoreCall} (only : c.looksOnly = true) : Does st now c {}

/-- What a request can come to: it fails and changes nothing, or it writes
what it does. -/
inductive Comes (st : Store) (now : Instant) (c : StoreCall) :
    Outcome Reply → Store → Prop
  | failed (failure : Failure) : Comes st now c (.error failure) st
  | done {w : Write} {reply : Reply} {left : Store}
      (does : Does st now c w)
      (written : ∃ audit, left = { st.write w with audit := audit }) :
      Comes st now c (.ok reply) left

section Comes

variable {st : Store} {now : Instant} {c : StoreCall}

private theorem same_audit (st : Store) :
    ∃ audit, st = { st with audit := audit } :=
  ⟨st.audit, rfl⟩

private theorem comes_of_looking (only : c.looksOnly = true)
    (reply : Reply) : Comes st now c (.ok reply) st := by
  refine .done (.looks only) ?_
  rw [Store.write_nothing]
  exact same_audit st

private theorem comes_of_write {w : Write} (does : Does st now c w)
    (reply : Reply) : Comes st now c (.ok reply) (st.write w) :=
  .done does (same_audit (st.write w))

private theorem comes_of_change {α : Type} {change : Outcome α × Store}
    (reply : α → Reply)
    (made : (∃ failure, change = (.error failure, st)) ∨
      ∃ a w, Does st now c w ∧ change = (.ok a, st.write w)) :
    Comes st now c (changed change reply).1 (changed change reply).2 := by
  rcases made with ⟨failure, refused⟩ | ⟨a, w, does, written⟩
  · rw [refused]
    exact .failed failure
  · rw [written]
    exact comes_of_write does (reply a)

private theorem found_of_any {α : Type} {value : Option α} {p : α → Bool}
    (holds : value.any p = true) : ∃ a, value = some a ∧ p a = true := by
  simpa [Option.any_eq_true] using holds

/-- A request is refused and changes nothing, or it does what it says. -/
theorem perform_comes (now : Instant) (sinks : Sinks) (st : Store)
    (c : StoreCall) :
    Comes st now c (c.perform now sinks st).1 (c.perform now sinks st).2 := by
  cases c with
  | insertRecord r =>
      rw [perform, Store.insertRecord_eq_write]
      exact comes_of_write .insertRecord _
  | updatePendingRecord r =>
      refine comes_of_change .record ?_
      by_cases here : (st.attendance.get? r.id).any (·.state == .pending)
      · obtain ⟨old, found, pending⟩ := found_of_any here
        have pending := beq_iff_eq.1 pending
        exact Or.inr ⟨r, _, .updateRecord found pending,
          Store.updatePendingRecord_of_pending found pending⟩
      · exact Or.inl ⟨_, if_neg here⟩
  | insertLeave r =>
      rw [perform, Store.insertLeave_eq_write]
      exact comes_of_write .insertLeave _
  | updatePendingLeave r =>
      refine comes_of_change .leave ?_
      by_cases here : st.isPendingLeave r.id
      · obtain ⟨old, found, pending⟩ := found_of_any here
        have pending := beq_iff_eq.1 pending
        exact Or.inr ⟨r, _, .updateLeave found pending,
          Store.updatePendingLeave_of_pending found pending⟩
      · exact Or.inl ⟨_, if_neg here⟩
  | recordDecision r d =>
      refine comes_of_change .leave ?_
      by_cases here : st.isPendingLeave r.id
      · obtain ⟨old, found, pending⟩ := found_of_any here
        have pending := beq_iff_eq.1 pending
        exact Or.inr ⟨r, _, .recordDecision found pending,
          Store.recordDecision_of_pending d found pending⟩
      · exact Or.inl ⟨_, if_neg here⟩
  | approveLeave r d grantedDays =>
      refine comes_of_change .approval ?_
      by_cases here : st.isPendingLeave r.id
      · obtain ⟨old, found, pending⟩ := found_of_any here
        have pending := beq_iff_eq.1 pending
        exact Or.inr ⟨_, _, .approveLeave found pending,
          Store.approveLeave_of_pending d grantedDays now found pending⟩
      · refine Or.inl ⟨.refused Store.leaveNotPending, ?_⟩
        have refused : st.recordDecision r d =
            (Outcome.refuse Store.leaveNotPending, st) :=
          if_neg here
        simp [Store.approveLeave, refused, Outcome.refuse]
  | openBalance employee organization grantedDays =>
      rw [perform, Store.openBalance_eq_write]
      exact comes_of_write .openBalance _
  | settleBalance employee organization year annualGrantDays carryOverCapDays
      grantedDays =>
      rw [perform]
      cases Settlement.of year annualGrantDays carryOverCapDays with
      | error failure =>
          exact .failed failure
      | ok terms =>
          refine comes_of_change .balance ?_
          rw [Store.settleBalance_eq_write]
          cases settled : (st.ledger employee organization grantedDays
              now).settle terms now with
          | error failure =>
              exact Or.inl ⟨failure, rfl⟩
          | ok b =>
              exact Or.inr ⟨b, _, .settleBalance settled, rfl⟩
  | upsertProfile scope draft =>
      refine comes_of_change .profile ?_
      by_cases hidden : ∃ p, st.profiles.get? draft.id = some p ∧
          scope.permits p.organization = false
      · obtain ⟨p, found, hidden⟩ := hidden
        exact Or.inl ⟨_, Store.upsertProfile_of_hidden now found hidden⟩
      · refine Or.inr ⟨_, _, .upsertProfile,
          Store.upsertProfile_of_permitted now ?_⟩
        intro p found
        rw [← Bool.not_eq_false]
        intro refused
        exact hidden ⟨p, found, refused⟩
  | insertSchedule s =>
      refine comes_of_change .schedule ?_
      by_cases free : st.overlappingSchedules s.employee s.start.instant
          s.finish.instant = []
      · exact Or.inr ⟨s, _, .insertSchedule,
          Store.insertSchedule_of_free free⟩
      · exact Or.inl ⟨_, if_neg (by simpa using free)⟩
  | insertRun r =>
      rw [perform, Store.insertRun_eq_write]
      exact comes_of_write .insertRun _
  | confirmRun id actor time =>
      refine comes_of_change .run ?_
      cases found : st.payroll.get? id with
      | none =>
          refine Or.inl
            ⟨.refused (.conflict "payroll run no longer exists"), ?_⟩
          simp [Store.confirmRun, found, Outcome.refuse]
      | some r =>
          by_cases previewed : r.state = .previewed
          · exact Or.inr ⟨_, _, .confirmRun found previewed,
              Store.confirmRun_of_previewed actor time found previewed⟩
          · refine Or.inl
              ⟨.refused (.conflict "payroll run already confirmed"), ?_⟩
            simp [Store.confirmRun, found, previewed, Outcome.refuse]
  | insertEmployee e =>
      refine comes_of_change .employee ?_
      cases found : st.employees.get? e.id with
      | none =>
          exact Or.inr ⟨e, _, .insertEmployee,
            Store.insertEmployee_of_new found⟩
      | some old =>
          exact Or.inl ⟨_, Store.insertEmployee_of_kept found⟩
  | updateEmployee e =>
      refine comes_of_change .employee ?_
      cases found : st.employees.get? e.id with
      | none =>
          refine Or.inl ⟨.refused (.notFound "employee not found"), ?_⟩
          simp [Store.updateEmployee, Table.contains, found, Outcome.refuse]
      | some old =>
          exact Or.inr ⟨e, _, .updateEmployee,
            Store.updateEmployee_of_kept found⟩
  | insertOrganization o =>
      refine comes_of_change .organization ?_
      cases found : st.organizations.get? o.id with
      | none =>
          exact Or.inr ⟨o, _, .insertOrganization,
            Store.insertOrganization_of_new found⟩
      | some old =>
          exact Or.inl ⟨_, Store.insertOrganization_of_kept found⟩
  | appendAudit entry =>
      obtain ⟨audit, events⟩ := sinks
      cases audit with
      | some message =>
          exact .failed _
      | none =>
          refine .done (.looks rfl) ⟨st.audit ++ [entry], ?_⟩
          rw [Store.write_nothing]
          rfl
  | _ =>
      -- What is left only looks.
      exact comes_of_looking rfl _

end Comes

end StoreCall

/-! ## Turns -/

/-- A request to the store with all that it meets. -/
structure Turn where
  before : Store
  now : Instant
  sinks : Sinks
  call : StoreCall

namespace Turn

def reply (t : Turn) : Outcome Reply :=
  (t.call.perform t.now t.sinks t.before).1

def after (t : Turn) : Store :=
  (t.call.perform t.now t.sinks t.before).2

def succeeds (t : Turn) : Bool :=
  t.reply.isOk

/-- The request is a conflict and changes nothing. -/
def Refused (t : Turn) : Prop :=
  (∃ message, t.reply = Outcome.refuse (.conflict message)) ∧
    t.after = t.before

/-- A turn fails and changes nothing, or succeeds and writes what it does. -/
theorem after_cases (t : Turn) :
    (t.succeeds = false ∧ t.after = t.before) ∨
    ∃ w audit, t.succeeds = true ∧ t.call.Does t.before t.now w ∧
      t.after = { t.before.write w with audit := audit } := by
  have comes := t.call.perform_comes t.now t.sinks t.before
  change StoreCall.Comes t.before t.now t.call t.reply t.after at comes
  unfold succeeds
  generalize t.reply = reply, t.after = after at comes ⊢
  cases comes with
  | failed failure =>
      exact Or.inl ⟨rfl, rfl⟩
  | done does written =>
      obtain ⟨audit, left⟩ := written
      exact Or.inr ⟨_, audit, rfl, does, left⟩

end Turn

/-- The turns that lead from one store to another, the latest first. -/
inductive Turns (start : Store) : List Turn → Store → Prop
  | start : Turns start [] start
  | turn {past : List Turn} {t : Turn} (turns : Turns start past t.before) :
      Turns start (t :: past) t.after

namespace Turns

theorem split {start st : Store} {recent earlier : List Turn}
    (turns : Turns start (recent ++ earlier) st) :
    ∃ met, Turns start earlier met ∧ Turns met recent st := by
  induction recent generalizing st with
  | nil =>
      exact ⟨st, turns, .start⟩
  | cons t rest inductionHypothesis =>
      cases turns with
      | turn turns =>
          obtain ⟨met, before, between⟩ := inductionHypothesis turns
          exact ⟨met, before, .turn between⟩

end Turns

/-! ## A request that callers meet -/

def askedLeave : LeaveRequest :=
  { id := "LR-1"
    employee := "emp-001"
    organization := none
    kind := .annual
    start := .ofInstant ⟨0⟩
    finish := .ofInstant ⟨0⟩
    days := 1
    reason := none
    state := .pending
    decisionReason := none
    decidedBy := none
    decidedAt := none
    createdAt := ⟨0⟩
    updatedAt := ⟨0⟩ }

def officer : Actor :=
  { id := "adm-001", role := .admin, organization := none }

/-- A turn while the sinks are in order. -/
def callerTurn (before : Store) (call : StoreCall) : Turn :=
  { before, now := ⟨0⟩, sinks := .working, call }

def insertion : Turn :=
  callerTurn Store.empty (.insertLeave askedLeave)

/-- The request to approve it as it was put in, with fifteen days granted to
a new ledger. -/
def approvalOfAsked : StoreCall :=
  .approveLeave (askedLeave.decide officer .approved none ⟨0⟩)
    (askedLeave.decision officer .approved none ⟨0⟩) 15

end Workforce
