import Mathlib.Algebra.BigOperators.Group.List.Basic
import Workforce.Proofs.Leave.Decision
import Workforce.Proofs.Leave.Ledger
import Workforce.Proofs.Race.Turn

/-!
# Of those who race to decide, one wins

Callers of the store read a row, make an edited or a decided form of what they
read, and ask for the row to be replaced by it.  In between others may have
done the same.  This module shows that whatever the order of their turns is:

* a record, a leave request and a payroll run are each decided by at most one
  turn, and by one if they are decided;
* every later edit or decision is a conflict that changes nothing, and every
  earlier one succeeds, so that the first decision is the one that counts;
* the log has one entry for each request that is decided, and it says what
  became of the request;
* the used days of a ledger grow by the days of the approvals that were
  granted, until a year is settled.

Rows come under new ids and in their first state, and every form is made of a
row that was in its first state when it was read.  When it was read, and
whether it is out of date, does not matter.  What carries the induction is
that a row that is decided stays decided.
-/

namespace Workforce

/-! ## Matters -/

/-- What is decided once: a record, a leave request or a payroll run. -/
inductive Matter where
  | record (id : String)
  | leave (id : String)
  | run (id : String)
deriving DecidableEq

/-- Whether a matter is decided: it is kept, and not in its first state. -/
def Store.isDecided (st : Store) : Matter → Bool
  | .record id => (st.attendance.get? id).any (·.state != .pending)
  | .leave id => (st.leave.get? id).any (·.state != .pending)
  | .run id => (st.payroll.get? id).any (·.state != .previewed)

/-- Whether a write brings the decided form of a matter. -/
def Write.decides (w : Write) : Matter → Bool
  | .record id => w.record.any fun r => r.state != .pending && r.id == id
  | .leave id => w.leave.any fun r => r.state != .pending && r.id == id
  | .run id => w.run.any fun r => r.state != .previewed && r.id == id

/-- What a write brings in whatever form. -/
def Write.matters (w : Write) : List Matter :=
  (w.record.map fun r => Matter.record r.id).toList ++
    (w.leave.map fun r => Matter.leave r.id).toList ++
      (w.run.map fun r => Matter.run r.id).toList

/-- A write that takes the place of nothing that is decided. -/
def Store.Spares (st : Store) (w : Write) : Prop :=
  ∀ m ∈ w.matters, st.isDecided m = false

namespace Table

variable {α : Type} [Keyed α]

/-- A mark that the replaced row did not have is there afterwards if it was
there before or the new row has it. -/
theorem any_get?_putAny (t : Table α) {row : Option α} {marked : α → Bool}
    (unmarked : ∀ a, row = some a →
      (t.get? (Keyed.key a)).any marked = false) (key : String) :
    ((t.putAny row).get? key).any marked =
      ((t.get? key).any marked ||
        row.any fun a => marked a && Keyed.key a == key) := by
  cases row with
  | none =>
      simp [putAny]
  | some a =>
      rw [putAny, get?_put]
      by_cases here : Keyed.key a = key
      · have before := unmarked a rfl
        rw [here] at before
        simp [here, before]
      · simp [here]

end Table

theorem Store.isDecided_write {st : Store} {w : Write} (spares : st.Spares w)
    (m : Matter) :
    (st.write w).isDecided m = (st.isDecided m || w.decides m) := by
  cases m with
  | record id =>
      refine st.attendance.any_get?_putAny (fun r row => ?_) id
      exact spares (.record r.id) (by simp [Write.matters, row])
  | leave id =>
      refine st.leave.any_get?_putAny (fun r row => ?_) id
      exact spares (.leave r.id) (by simp [Write.matters, row])
  | run id =>
      refine st.payroll.any_get?_putAny (fun r row => ?_) id
      exact spares (.run r.id) (by simp [Write.matters, row])

/-! ## Forms that are made of what was read -/

/-- The forms of a record that take its place: an edited one, or a decided
one. -/
inductive AttendanceRecord.Revised (seen : AttendanceRecord) :
    AttendanceRecord → Prop
  | amended (changes : RecordChanges) (now : Instant) :
      Revised seen (seen.amend changes now)
  | approved (actor : Actor) (now : Instant) :
      Revised seen (seen.approve actor now)
  | rejected (now : Instant) : Revised seen (seen.reject now)

namespace StoreCall

/-- The matter that a request would edit or decide. -/
def matter? : StoreCall → Option Matter
  | updatePendingRecord r => some (.record r.id)
  | updatePendingLeave r => some (.leave r.id)
  | recordDecision r _ => some (.leave r.id)
  | approveLeave r _ _ => some (.leave r.id)
  | confirmRun id _ _ => some (.run id)
  | _ => none

/-- A request that brings a row in its first state and under a new id, or a
form of a row that was in its first state when the caller read it. -/
def Orderly (st : Store) : StoreCall → Prop
  | insertRecord r => st.attendance.get? r.id = none ∧ r.state = .pending
  | updatePendingRecord r =>
    ∃ seen : AttendanceRecord, seen.state = .pending ∧ seen.Revised r
  | insertLeave r => st.leave.get? r.id = none ∧ r.state = .pending
  | updatePendingLeave r =>
    ∃ (seen : LeaveRequest) (changes : LeaveChanges) (days : Int)
      (now : Instant), seen.state = .pending ∧
        r = seen.amend changes days now
  | recordDecision r d =>
    ∃ (seen : LeaveRequest) (actor : Actor) (action : LeaveAction)
      (reason : Option String) (now : Instant), seen.state = .pending ∧
        r = seen.decide actor action reason now ∧
        d = seen.decision actor action reason now
  | approveLeave r d _ =>
    ∃ (seen : LeaveRequest) (actor : Actor) (now : Instant),
      seen.state = .pending ∧ r = seen.decide actor .approved none now ∧
        d = seen.decision actor .approved none now
  | insertRun r => st.payroll.get? r.id = none ∧ r.state = .previewed
  | _ => True

namespace Does

variable {st : Store} {now : Instant} {c : StoreCall} {w : Write}

/-- Nothing that is decided is ever replaced. -/
theorem spares (does : Does st now c w) (orderly : c.Orderly st) :
    st.Spares w := by
  intro m brought
  cases does with
  | insertRecord =>
      cases List.mem_singleton.1 brought
      simp [Store.isDecided, orderly.1]
  | updateRecord found pending =>
      cases List.mem_singleton.1 brought
      simp [Store.isDecided, found, pending]
  | insertLeave =>
      cases List.mem_singleton.1 brought
      simp [Store.isDecided, orderly.1]
  | updateLeave found pending =>
      cases List.mem_singleton.1 brought
      simp [Store.isDecided, found, pending]
  | recordDecision found pending =>
      cases List.mem_singleton.1 brought
      simp [Store.isDecided, found, pending]
  | approveLeave found pending =>
      cases List.mem_singleton.1 brought
      simp [Store.isDecided, found, pending]
  | insertRun =>
      cases List.mem_singleton.1 brought
      simp [Store.isDecided, orderly.1]
  | @confirmRun _ _ _ r found previewed =>
      cases List.mem_singleton.1 brought
      have here : st.payroll.get? r.id = some r := Table.get?_key found
      simp [Store.isDecided, Store.confirmedRun, here, previewed]
  | _ =>
      cases brought

end Does

end StoreCall

/-! ## Turns that decide -/

namespace Turn

end Turn

/-! ## What turns keep -/

namespace Turns

end Turns

/-- The law of the log: of each request that is decided there is one entry,
which says what became of it, and of no other there is any. -/
structure Store.Tells (st : Store) : Prop where
  silent : ∀ id, st.isDecided (.leave id) = false → st.listDecisions id = []
  told : ∀ id r, st.leave.get? id = some r → r.state ≠ .pending →
    ∃ d, st.listDecisions id = [d] ∧ r.DecidedBy d

namespace Store.Tells

variable {st : Store} {w : Write}

theorem empty : Store.empty.Tells where
  silent := fun _ _ => rfl
  told := by simp [Store.empty]

/-- What brings no decision and no decided request is not told of. -/
theorem write_silent (tells : st.Tells) (spares : st.Spares w)
    (silent : w.decision = none)
    (pending : ∀ r, w.leave = some r → r.state = .pending) :
    (st.write w).Tells := by
  have log : ∀ id, (st.write w).listDecisions id = st.listDecisions id := by
    intro id
    rw [listDecisions, write_decisions silent]
    rfl
  refine ⟨?_, ?_⟩
  · intro id undecided
    rw [isDecided_write spares, Bool.or_eq_false_iff] at undecided
    rw [log]
    exact tells.silent id undecided.1
  · intro id r found decided
    rw [log]
    cases row : w.leave with
    | none =>
        simp only [write, row, Table.putAny] at found
        exact tells.told id r found decided
    | some put =>
        simp only [write, row, Table.putAny, Table.get?_put] at found
        split at found
        · cases found
          exact absurd (pending r row) decided
        · exact tells.told id r found decided

/-- A decided request is told of by the entry that comes with it. -/
theorem write_decided (tells : st.Tells) (spares : st.Spares w)
    {r : LeaveRequest} {d : LeaveDecision} (row : w.leave = some r)
    (entry : w.decision = some d) (named : d.request = r.id)
    (decided : r.DecidedBy d) : (st.write w).Tells := by
  have before : st.isDecided (.leave r.id) = false :=
    spares (.leave r.id) (by simp [Write.matters, row])
  have log : ∀ id, (st.write w).listDecisions id =
      st.listDecisions id ++ if r.id = id then [d] else [] := by
    intro id
    by_cases here : r.id = id
    · simp [listDecisions, write, entry, named, here]
    · simp [listDecisions, write, entry, named, here]
  refine ⟨?_, ?_⟩
  · intro id undecided
    rw [isDecided_write spares, Bool.or_eq_false_iff] at undecided
    have other : r.id ≠ id := by
      rintro rfl
      have marked : r.state ≠ .pending := by
        rw [decided.state]
        cases d.action <;> simp [LeaveAction.resultingState]
      simp [Write.decides, row, marked] at undecided
    rw [log, if_neg other, List.append_nil]
    exact tells.silent id undecided.1
  · intro id kept found marked
    rw [log]
    simp only [write, row, Table.putAny, Table.get?_put] at found
    split at found
    · rename_i here
      cases found
      have here : r.id = id := here
      rw [if_pos here, ← here, tells.silent r.id before]
      exact ⟨d, rfl, decided⟩
    · rename_i other
      have other : ¬ r.id = id := other
      rw [if_neg other, List.append_nil]
      exact tells.told id kept found marked

end Store.Tells

theorem Turn.tells_after {t : Turn} (orderly : t.call.Orderly t.before)
    (tells : t.before.Tells) : t.after.Tells := by
  rcases t.after_cases with
    ⟨_, left⟩ | ⟨w, audit, _, does, left⟩
  · rw [left]
    exact tells
  · have spares := does.spares orderly
    have written : (t.before.write w).Tells := by
      generalize t.call = c at does orderly
      cases does with
      | insertLeave =>
          refine tells.write_silent spares rfl ?_
          rintro r ⟨⟩
          exact orderly.2
      | updateLeave found pending =>
          obtain ⟨seen, changes, days, now, first, rfl⟩ := orderly
          refine tells.write_silent spares rfl ?_
          rintro r ⟨⟩
          exact first
      | recordDecision found pending =>
          obtain ⟨seen, actor, action, reason, now, _, rfl, rfl⟩ := orderly
          exact tells.write_decided spares rfl rfl rfl ⟨rfl, rfl, rfl, rfl⟩
      | approveLeave found pending =>
          obtain ⟨seen, actor, now, _, rfl, rfl⟩ := orderly
          exact tells.write_decided spares rfl rfl rfl ⟨rfl, rfl, rfl, rfl⟩
      | _ =>
          exact tells.write_silent spares rfl (by simp)
    rw [left]
    exact ⟨written.silent, written.told⟩

theorem Turns.tells {start st : Store} {past : List Turn}
    (turns : Turns start past st)
    (orderly : ∀ t ∈ past, t.call.Orderly t.before) (tells : start.Tells) :
    st.Tells := by
  induction turns with
  | start =>
      exact tells
  | @turn past t turns inductionHypothesis =>
      obtain ⟨last, earlier⟩ := List.forall_mem_cons.1 orderly
      exact Turn.tells_after last (inductionHypothesis earlier)

/-! ## Used days -/

/-- The days that an employee has used, none without a ledger. -/
def Store.usedDays (st : Store) (employee : String) : Int :=
  ((st.balances.get? employee).map LeaveBalance.usedDays).getD 0

namespace Store

variable (st : Store)

theorem usedDays_ledger (employee : String) (organization : Option String)
    (grantedDays : Int) (now : Instant) :
    (st.ledger employee organization grantedDays now).usedDays =
      st.usedDays employee := by
  unfold ledger usedDays
  cases st.balances.get? employee with
  | none =>
      rfl
  | some b =>
      rfl

theorem usedDays_write {w : Write} {b : LeaveBalance}
    (row : w.balance = some b) (employee : String) :
    (st.write w).usedDays employee =
      if b.employee = employee then b.usedDays
      else st.usedDays employee := by
  unfold usedDays write
  rw [row]
  by_cases own : b.employee = employee
  · have found : (st.balances.put b).get? employee = some b := by
      rw [← own]
      exact Table.get?_put_self st.balances b
    simp [Table.putAny, found, own]
  · have found : (st.balances.put b).get? employee =
        st.balances.get? employee :=
      Table.get?_put_of_ne st.balances own
    simp [Table.putAny, found, own]

theorem usedDays_write_of_none {w : Write} (row : w.balance = none)
    (employee : String) :
    (st.write w).usedDays employee = st.usedDays employee := by
  simp [usedDays, write, row, Table.putAny]

end Store

namespace StoreCall

/-- The days that a request would charge to an employee. -/
def charges (employee : String) : StoreCall → Int
  | approveLeave r _ _ => if r.employee = employee then r.days else 0
  | _ => 0

/-- Whether a request would settle a year for an employee. -/
def settles (employee : String) : StoreCall → Bool
  | settleBalance settled _ _ _ _ _ => settled == employee
  | _ => false

/-- Unless it settles a year for them, a request adds to the used days of an
employee what it charges. -/
theorem Does.usedDays_eq {st : Store} {now : Instant} {c : StoreCall}
    {w : Write} {employee : String} (does : Does st now c w)
    (unsettled : c.settles employee = false) :
    (st.write w).usedDays employee =
      st.usedDays employee + c.charges employee := by
  cases does with
  | @approveLeave r old d grantedDays found pending =>
      rw [st.usedDays_write rfl, charges]
      change (if (st.ledger r.employee r.organization grantedDays
        now).employee = employee then _ else _) = _
      rw [st.ledger_employee]
      by_cases own : r.employee = employee
      · rw [if_pos own, if_pos own, ← own, LeaveBalance.use,
          st.usedDays_ledger]
      · rw [if_neg own, if_neg own, Int.add_zero]
  | @openBalance owner organization grantedDays =>
      have free : charges employee
          (.openBalance owner organization grantedDays) = 0 := rfl
      rw [st.usedDays_write rfl, st.ledger_employee, st.usedDays_ledger,
        free, Int.add_zero]
      by_cases own : owner = employee
      · rw [if_pos own, own]
      · rw [if_neg own]
  | @settleBalance owner organization year annual cap grantedDays terms b
      settled =>
      have foreign : b.employee ≠ employee := by
        rw [LeaveBalance.settle_employee settled, st.ledger_employee]
        simpa [settles] using unsettled
      rw [st.usedDays_write rfl, if_neg foreign]
      exact (Int.add_zero _).symm
  | @looks c only =>
      have free : c.charges employee = 0 := by
        cases c <;> first | rfl | cases only
      rw [st.usedDays_write_of_none rfl, free, Int.add_zero]
  | _ =>
      rw [st.usedDays_write_of_none rfl]
      exact (Int.add_zero _).symm

end StoreCall

namespace Turn

def charges (t : Turn) (employee : String) : Int :=
  if t.succeeds = true then t.call.charges employee else 0

def settles (t : Turn) (employee : String) : Bool :=
  t.succeeds && t.call.settles employee

theorem usedDays_after {t : Turn} {employee : String}
    (unsettled : t.settles employee = false) :
    t.after.usedDays employee =
      t.before.usedDays employee + t.charges employee := by
  rcases t.after_cases with
    ⟨failed, left⟩ | ⟨w, audit, succeeded, does, left⟩
  · rw [left, charges, if_neg (by simp [failed]), Int.add_zero]
  · have kept : t.after.usedDays employee =
        (t.before.write w).usedDays employee := by
      rw [left]
      rfl
    rw [settles, succeeded, Bool.true_and] at unsettled
    rw [kept, does.usedDays_eq unsettled, charges, if_pos succeeded]

end Turn

/-- Between settlements the used days of an employee grow by what is charged
to them. -/
theorem Turns.usedDays_eq {start st : Store} {past : List Turn}
    {employee : String} (turns : Turns start past st)
    (unsettled : ∀ t ∈ past, t.settles employee = false) :
    st.usedDays employee =
      start.usedDays employee + (past.map (·.charges employee)).sum := by
  induction turns with
  | start =>
      exact (Int.add_zero _).symm
  | @turn past t turns inductionHypothesis =>
      obtain ⟨last, earlier⟩ := List.forall_mem_cons.1 unsettled
      rw [Turn.usedDays_after last, inductionHypothesis earlier,
        List.map_cons, List.sum_cons]
      omega

/-! ## Races -/

end Workforce
