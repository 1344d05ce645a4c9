import Workforce.Proofs.Race.Winner

/-!
# A decision brings back what was read

Whoever decides on a row asks for it to be replaced by the decided form of the
row as they read it.  The store looks at the state of the row that is there,
and at nothing else of it.  This module shows what follows from that, for
attendance records and leave requests alike:

* while the row is still in its first state the decision succeeds, and what is
  kept then are the terms that were read, not those that are there;
* an approval of a leave request charges the days that were read;
* nothing is lost if nobody brought the row in between, whatever else they
  did.

An edit that comes between the reading and the decision is lost: the leave of
two days of `edit` is approved and charged as the one day that was read.
-/

namespace Workforce

/-! ## Terms -/

/-- What a row says apart from its state, the marks of a decision and the time
of its last change. -/
inductive Terms where
  | shift (employee : String) (organization : Option String)
      (checkIn : ZonedTime) (checkOut : Option ZonedTime)
      (breakMinutes : Int) (isHoliday : Bool) (notes : Option String)
  | leave (employee : String) (organization : Option String)
      (kind : LeaveKind) (start finish : ZonedTime) (days : Int)
      (reason : Option String)
deriving DecidableEq

def AttendanceRecord.terms (r : AttendanceRecord) : Terms :=
  .shift r.employee r.organization r.checkIn r.checkOut r.breakMinutes
    r.isHoliday r.notes

def LeaveRequest.terms (r : LeaveRequest) : Terms :=
  .leave r.employee r.organization r.kind r.start r.finish r.days r.reason

def Terms.days : Terms → Int
  | .shift _ _ _ _ _ _ _ => 0
  | .leave _ _ _ _ _ days _ => days

namespace Store

/-- The terms of a matter as it is kept.  A run is confirmed as it is kept, so
that none of its terms can be lost. -/
def terms? (st : Store) : Matter → Option Terms
  | .record id => (st.attendance.get? id).map AttendanceRecord.terms
  | .leave id => (st.leave.get? id).map LeaveRequest.terms
  | .run _ => none

/-- Whether a matter is kept in its first state. -/
def isOpen (st : Store) : Matter → Bool
  | .record id => (st.attendance.get? id).any (·.state == .pending)
  | .leave id => (st.leave.get? id).any (·.state == .pending)
  | .run id => (st.payroll.get? id).any (·.state == .previewed)

variable {st : Store} {w : Write}

theorem record_write {r : AttendanceRecord} (row : w.record = some r) :
    (st.write w).attendance.get? r.id = some r := by
  simp only [write, row, Table.putAny]
  exact Table.get?_put_self st.attendance r

theorem leave_write {r : LeaveRequest} (row : w.leave = some r) :
    (st.write w).leave.get? r.id = some r := by
  simp only [write, row, Table.putAny]
  exact Table.get?_put_self st.leave r

theorem terms?_write_of_not_mem {m : Matter} (absent : m ∉ w.matters) :
    (st.write w).terms? m = st.terms? m := by
  cases m with
  | record id =>
      have kept : (st.write w).attendance.get? id =
          st.attendance.get? id := by
        refine st.attendance.get?_putAny_of_ne ?_
        rintro r row rfl
        exact absent (by simp [Write.matters, row, Keyed.key])
      rw [terms?, kept, terms?]
  | leave id =>
      have kept : (st.write w).leave.get? id = st.leave.get? id := by
        refine st.leave.get?_putAny_of_ne ?_
        rintro r row rfl
        exact absent (by simp [Write.matters, row, Keyed.key])
      rw [terms?, kept, terms?]
  | run id =>
      rfl

end Store

/-! ## Who brings what -/

namespace StoreCall

/-- The matter that a request would bring, in its first state or later. -/
def brings? : StoreCall → Option Matter
  | insertRecord r => some (.record r.id)
  | insertLeave r => some (.leave r.id)
  | insertRun r => some (.run r.id)
  | c => c.matter?

theorem Does.matters_eq {st : Store} {now : Instant} {c : StoreCall}
    {w : Write} (does : Does st now c w) : w.matters = c.brings?.toList := by
  cases does with
  | @confirmRun id actor time r found previewed =>
      have same : r.id = id := Table.key_of_get? found
      simp [Write.matters, brings?, matter?, Store.confirmedRun, same]
  | @looks c only =>
      have nothing : c.brings? = none := by
        cases c <;> first | rfl | cases only
      rw [nothing]
      rfl
  | _ =>
      rfl

/-- A decision on a matter that is made of the row as it is in a store, while
that is in its first state. -/
inductive DecidesAsRead (st : Store) : StoreCall → Matter → Prop
  | approveRecord {id : String} {seen : AttendanceRecord}
      (read : st.attendance.get? id = some seen)
      (pending : seen.state = .pending) (actor : Actor) (now : Instant) :
      DecidesAsRead st (.updatePendingRecord (seen.approve actor now))
        (.record id)
  | rejectRecord {id : String} {seen : AttendanceRecord}
      (read : st.attendance.get? id = some seen)
      (pending : seen.state = .pending) (now : Instant) :
      DecidesAsRead st (.updatePendingRecord (seen.reject now)) (.record id)
  | recordDecision {id : String} {seen : LeaveRequest}
      (read : st.leave.get? id = some seen)
      (pending : seen.state = .pending) (actor : Actor)
      (action : LeaveAction) (reason : Option String) (now : Instant) :
      DecidesAsRead st
        (.recordDecision (seen.decide actor action reason now)
          (seen.decision actor action reason now)) (.leave id)
  | approveLeave {id : String} {seen : LeaveRequest}
      (read : st.leave.get? id = some seen)
      (pending : seen.state = .pending) (actor : Actor) (now : Instant)
      (grantedDays : Int) :
      DecidesAsRead st
        (.approveLeave (seen.decide actor .approved none now)
          (seen.decision actor .approved none now) grantedDays) (.leave id)

end StoreCall

namespace Turn

def brings? (t : Turn) : Option Matter :=
  if t.succeeds = true then t.call.brings? else none

theorem terms?_after {t : Turn} {m : Matter} (absent : t.brings? ≠ some m) :
    t.after.terms? m = t.before.terms? m := by
  rcases t.after_cases with
    ⟨failed, left⟩ | ⟨w, audit, succeeded, does, left⟩
  · rw [left]
  · have kept : t.after.terms? m = (t.before.write w).terms? m := by
      rw [left]
      cases m <;> rfl
    rw [kept]
    apply Store.terms?_write_of_not_mem
    rw [brings?, if_pos succeeded] at absent
    rw [does.matters_eq, Option.mem_toList]
    exact absent

end Turn

/-- What nobody brings keeps its terms. -/
theorem Turns.terms?_eq {start st : Store} {past : List Turn} {m : Matter}
    (turns : Turns start past st) (absent : ∀ t ∈ past, t.brings? ≠ some m) :
    st.terms? m = start.terms? m := by
  induction turns with
  | start =>
      rfl
  | @turn past t turns inductionHypothesis =>
      obtain ⟨spared, earlier⟩ := List.forall_mem_cons.1 absent
      rw [Turn.terms?_after spared]
      exact inductionHypothesis earlier

/-! ## Decisions on what was read -/

namespace Turn

/-- A turn that is granted and leaves a matter decided, with these terms. -/
structure Lands (t : Turn) (m : Matter) (terms : Terms) : Prop where
  succeeds : t.succeeds = true
  decided : t.after.isDecided m = true
  terms : t.after.terms? m = some terms

/-- The decided form of a record takes the place of a pending one, whatever
that says. -/
theorem lands_of_record {t : Turn} {r : AttendanceRecord}
    (call : t.call = .updatePendingRecord r) (decided : r.state ≠ .pending)
    (undecided : t.before.isOpen (.record r.id) = true) :
    t.Lands (.record r.id) r.terms := by
  obtain ⟨st, now, sinks, c⟩ := t
  cases call
  obtain ⟨old, found, pending⟩ :
      ∃ old, st.attendance.get? r.id = some old ∧ old.state = .pending := by
    simpa [Store.isOpen, Option.any_eq_true] using undecided
  have kept : (st.write { record := some r }).attendance.get? r.id =
      some r :=
    Store.record_write rfl
  have made : StoreCall.perform now sinks st (.updatePendingRecord r) =
      (.ok (.record r), st.write { record := some r }) := by
    rw [StoreCall.perform, Store.updatePendingRecord_of_pending found pending]
    rfl
  refine ⟨?_, ?_, ?_⟩
  · simp only [succeeds, reply, made]
    rfl
  · simp [after, made, Store.isDecided, kept, decided]
  · simp [after, made, Store.terms?, kept]

/-- The decided form of a leave request takes the place of a pending one,
whatever that says, with an approval or without. -/
theorem lands_of_leave {t : Turn} {r : LeaveRequest} {d : LeaveDecision}
    (call : t.call = .recordDecision r d ∨
      ∃ grantedDays, t.call = .approveLeave r d grantedDays)
    (decided : r.state ≠ .pending)
    (undecided : t.before.isOpen (.leave r.id) = true) :
    t.Lands (.leave r.id) r.terms := by
  obtain ⟨st, now, sinks, c⟩ := t
  obtain ⟨old, found, pending⟩ :
      ∃ old, st.leave.get? r.id = some old ∧ old.state = .pending := by
    simpa [Store.isOpen, Option.any_eq_true] using undecided
  obtain ⟨answer, w, row, made⟩ : ∃ answer w, w.leave = some r ∧
      c.perform now sinks st = (.ok answer, st.write w) := by
    rcases call with call | ⟨grantedDays, call⟩
    · cases call
      refine ⟨.leave r, { leave := some r, decision := some d }, rfl, ?_⟩
      rw [StoreCall.perform, Store.recordDecision_of_pending d found pending]
      rfl
    · cases call
      let charged := (st.ledger r.employee r.organization grantedDays
        now).use r.days now
      refine ⟨.approval ⟨r, charged⟩,
        { leave := some r, decision := some d, balance := some charged },
        rfl, ?_⟩
      rw [StoreCall.perform,
        Store.approveLeave_of_pending d grantedDays now found pending]
      rfl
  have kept : (st.write w).leave.get? r.id = some r :=
    Store.leave_write row
  refine ⟨?_, ?_, ?_⟩
  · simp only [succeeds, reply, made]
    rfl
  · simp [after, made, Store.isDecided, kept, decided]
  · simp [after, made, Store.terms?, kept]

end Turn

/-- What comes of a decision that is made of a row as it was read: while the
row is in its first state the decision is granted, and the terms that are kept
are those that were read, whatever others left there.  An approval of a leave
request charges the days that were read.  If nobody else brought the row, what
was read is what was there, and no term is lost. -/
theorem decision_brings_what_was_read {st : Store} {others : List Turn}
    {t : Turn} {m : Matter} (turns : Turns st others t.before)
    (verdict : t.call.DecidesAsRead st m)
    (undecided : t.before.isOpen m = true) :
    ∃ read, st.terms? m = some read ∧ t.Lands m read ∧
      (∀ r d grantedDays, t.call = .approveLeave r d grantedDays →
        t.after.usedDays r.employee =
          t.before.usedDays r.employee + read.days) ∧
      ((∀ s ∈ others, s.brings? ≠ some m) →
        t.before.terms? m = some read) := by
  obtain ⟨read, known, lands, charged⟩ : ∃ read, st.terms? m = some read ∧
      t.Lands m read ∧ ∀ r d grantedDays,
        t.call = .approveLeave r d grantedDays → read.days = r.days := by
    generalize called : t.call = c at verdict
    cases verdict with
    | @approveRecord id seen read pending actor now =>
        obtain rfl : seen.id = id := Table.key_of_get? read
        have decided : (seen.approve actor now).state ≠ .pending := by
          simp [AttendanceRecord.approve]
        have lands := Turn.lands_of_record called decided undecided
        exact ⟨seen.terms, by simp [Store.terms?, read], lands, by simp⟩
    | @rejectRecord id seen read pending now =>
        obtain rfl : seen.id = id := Table.key_of_get? read
        have decided : (seen.reject now).state ≠ .pending := by
          simp [AttendanceRecord.reject]
        have lands := Turn.lands_of_record called decided undecided
        exact ⟨seen.terms, by simp [Store.terms?, read], lands, by simp⟩
    | @recordDecision id seen read pending actor action reason now =>
        obtain rfl : seen.id = id := Table.key_of_get? read
        have decided :
            (seen.decide actor action reason now).state ≠ .pending := by
          cases action <;>
            simp [LeaveRequest.decide, LeaveAction.resultingState]
        have lands := Turn.lands_of_leave (.inl called) decided undecided
        exact ⟨seen.terms, by simp [Store.terms?, read], lands, by simp⟩
    | @approveLeave id seen read pending actor now grantedDays =>
        obtain rfl : seen.id = id := Table.key_of_get? read
        have decided :
            (seen.decide actor .approved none now).state ≠ .pending := by
          simp [LeaveRequest.decide, LeaveAction.resultingState]
        have lands :=
          Turn.lands_of_leave (.inr ⟨_, called⟩) decided undecided
        refine ⟨seen.terms, by simp [Store.terms?, read], lands, ?_⟩
        rintro r d granted ⟨⟩
        rfl
  refine ⟨read, known, lands, ?_, ?_⟩
  · intro r d grantedDays called
    have unsettled : t.settles r.employee = false := by
      simp [Turn.settles, called, StoreCall.settles]
    rw [Turn.usedDays_after unsettled, Turn.charges, if_pos lands.succeeds,
      called, charged r d grantedDays called]
    simp [StoreCall.charges]
  · intro absent
    rw [turns.terms?_eq absent, known]

/-- Somebody else opens the employee's ledger in between. -/
def opening : Turn :=
  callerTurn insertion.after (.openBalance "emp-001" none 15)

def approvalAfterOpening : Turn :=
  callerTurn opening.after approvalOfAsked

/-- An approval behind a turn that leaves the request alone keeps the terms
that are there, and charges their day. -/
theorem approvalAfterOpening_keeps_terms :
    Turns insertion.after [opening] approvalAfterOpening.before ∧
      approvalAfterOpening.before.terms? (.leave "LR-1") =
        some askedLeave.terms ∧
      approvalAfterOpening.Lands (.leave "LR-1") askedLeave.terms ∧
      approvalAfterOpening.after.usedDays "emp-001" = 1 := by
  have turns : Turns insertion.after [opening] approvalAfterOpening.before :=
    .turn .start
  have verdict : approvalAfterOpening.call.DecidesAsRead insertion.after
      (.leave "LR-1") :=
    .approveLeave rfl rfl officer ⟨0⟩ 15
  obtain ⟨read, known, lands, charged, kept⟩ :=
    decision_brings_what_was_read turns verdict (by decide)
  obtain rfl : askedLeave.terms = read := Option.some.inj known
  refine ⟨turns, kept (by decide), lands, ?_⟩
  exact (charged _ _ _ rfl).trans (by decide)

/-! ## An edit that is lost -/

def editedLeave : LeaveRequest :=
  askedLeave.amend ⟨none, none, some (.ofInstant ⟨Instant.perDay⟩), none⟩ 2
    ⟨0⟩

def edit : Turn :=
  callerTurn insertion.after (.updatePendingLeave editedLeave)

/-- Somebody who read it before approves the leave. -/
def staleApproval : Turn :=
  callerTurn edit.after approvalOfAsked

/-- The edit succeeds and leaves the leave pending, with two days.  The
approval of what was read before succeeds too; afterwards the leave is the one
day that was read, and one day is charged. -/
theorem edit_lost_to_staleApproval :
    insertion.after.leave.get? "LR-1" = some askedLeave ∧
      Turns insertion.after [edit] staleApproval.before ∧
      edit.succeeds = true ∧
      staleApproval.before.leave.get? "LR-1" = some editedLeave ∧
      editedLeave.state = .pending ∧ editedLeave.days = 2 ∧
      staleApproval.call.DecidesAsRead insertion.after (.leave "LR-1") ∧
      staleApproval.succeeds = true ∧
      (staleApproval.after.leave.get? "LR-1").map LeaveRequest.finish =
        some askedLeave.finish ∧
      askedLeave.finish ≠ editedLeave.finish ∧
      staleApproval.after.usedDays "emp-001" = 1 := by
  refine ⟨rfl, .turn .start, by decide, rfl, rfl, rfl, ?_, by decide,
    by decide, by decide, by decide⟩
  exact .approveLeave rfl rfl officer ⟨0⟩ 15

end Workforce
