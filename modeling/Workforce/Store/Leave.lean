import Workforce.Store.Basic

/-!
Keeping leave requests, the decisions on them, and ledgers. A decision and
what it changes are kept together.
-/

namespace Workforce.Store

/-! ## Requests -/

/-- Keeps a request, in the place of one with its id. -/
def insertLeave (st : Store) (r : LeaveRequest) : Store :=
  { st with leave := st.leave.put r }

/-- Whether a request is kept and pending. -/
def isPendingLeave (st : Store) (id : String) : Bool :=
  (st.leave.get? id).any (·.state == .pending)

/-- What is answered to a change of a request that is not pending. -/
def leaveNotPending : Fault :=
  .conflict "only pending leave request can be changed"

/-- Replaces a request that is kept and pending. -/
def updatePendingLeave (st : Store) (r : LeaveRequest) :
    Outcome LeaveRequest × Store :=
  if st.isPendingLeave r.id then
    (.ok r, st.insertLeave r)
  else
    (Outcome.refuse leaveNotPending, st)

/-- Replaces a request that is kept and pending, and logs the decision. -/
def recordDecision (st : Store) (r : LeaveRequest) (d : LeaveDecision) :
    Outcome LeaveRequest × Store :=
  if st.isPendingLeave r.id then
    (.ok r, { st.insertLeave r with decisions := st.decisions ++ [d] })
  else
    (Outcome.refuse leaveNotPending, st)

/-- The active requests of an employee, other than the excluded one, that
touch a day of a range, by start. -/
def overlappingLeave (st : Store) (employee : String) (days : DayRange)
    (excluded : Option String) : List LeaveRequest :=
  sortBy byStart <| st.leave.rows.filter fun r =>
    r.employee == employee && r.state.isActive && excluded != some r.id &&
      r.dayRange.overlaps days
where
  byStart (a b : LeaveRequest) : Bool := a.start.instant ≤ b.start.instant

/-- The requests that meet a period, by start and id. -/
def listLeave (st : Store) (period : Period) (owner : OwnerFilter)
    (state : Option LeaveState) : List LeaveRequest :=
  sortBy (byTime (·.start.instant)) <| st.leave.rows.filter fun r =>
    wanted state r.state &&
      period.meets r.start.instant r.finish.instant &&
        owner.passes r.organization r.employee

/-- The decisions on a request, in the order in which they were taken. -/
def listDecisions (st : Store) (request : String) : List LeaveDecision :=
  st.decisions.filter (·.request == request)

/-! ## Ledgers -/

/-- Keeps a ledger, in the place of its employee's. -/
def putBalance (st : Store) (b : LeaveBalance) : Store :=
  { st with balances := st.balances.put b }

/-- The ledger of an employee; one without a ledger gets a fresh one. -/
def openBalance (st : Store) (employee : String)
    (organization : Option String) (grantedDays : Int) (now : Instant) :
    LeaveBalance × Store :=
  match st.balances.get? employee with
  | some b => (b, st)
  | none =>
    let b := LeaveBalance.fresh employee organization grantedDays now
    (b, st.putBalance b)

/-- Replaces a pending request by its approved form, logs the decision and
charges the days to the ledger. -/
def approveLeave (st : Store) (r : LeaveRequest) (d : LeaveDecision)
    (grantedDays : Int) (now : Instant) :
    Outcome LeaveApproval × Store :=
  match st.recordDecision r d with
  | (.ok r, st) =>
    let (b, st) := st.openBalance r.employee r.organization grantedDays now
    let b := b.use r.days now
    (.ok ⟨r, b⟩, st.putBalance b)
  | (.error e, st) => (.error e, st)

/-- Settles a year in the ledger of an employee. -/
def settleBalance (st : Store) (employee : String)
    (organization : Option String) (s : Settlement) (grantedDays : Int)
    (now : Instant) : Outcome LeaveBalance × Store :=
  let (b, st) := st.openBalance employee organization grantedDays now
  match b.settle s now with
  | .ok b => (.ok b, st.putBalance b)
  | .error e => (.error e, st)

end Workforce.Store
