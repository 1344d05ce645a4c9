import Workforce.Access.Tenant
import Workforce.Leave.Span
import Workforce.Text.Named

/-!
Leave requests and the decisions that end them.
-/

namespace Workforce

/-- What kind of leave is asked for. -/
inductive LeaveKind where
  | annual
  | sick
  | unpaid
deriving DecidableEq, Repr

instance : Named LeaveKind where
  all := [.annual, .sick, .unpaid]
  name
    | .annual => "ANNUAL"
    | .sick => "SICK"
    | .unpaid => "UNPAID"

/-- Where a request stands. Only a pending one can change. -/
inductive LeaveState where
  | pending
  | approved
  | rejected
  | canceled
deriving DecidableEq, Repr

instance : Named LeaveState where
  all := [.pending, .approved, .rejected, .canceled]
  name
    | .pending => "PENDING"
    | .approved => "APPROVED"
    | .rejected => "REJECTED"
    | .canceled => "CANCELED"

/-- Whether a request in this state keeps its days taken. -/
def LeaveState.isActive : LeaveState → Bool
  | .pending => true
  | .approved => true
  | .rejected => false
  | .canceled => false

/-- A leave of an employee from one instant to another, with the number of
civil days it takes. -/
structure LeaveRequest where
  id : String
  employee : String
  organization : Option String
  kind : LeaveKind
  start : ZonedTime
  finish : ZonedTime
  days : Int
  reason : Option String
  state : LeaveState
  decisionReason : Option String
  decidedBy : Option String
  decidedAt : Option Instant
  createdAt : Instant
  updatedAt : Instant
deriving DecidableEq, Repr

instance : Owned LeaveRequest := ⟨LeaveRequest.organization⟩

/-- The civil days of a request. -/
def LeaveRequest.dayRange (r : LeaveRequest) : DayRange :=
  DayRange.ofInstants r.start.instant r.finish.instant

/-- What ends a pending request. -/
inductive LeaveAction where
  | approved
  | rejected
  | canceled
deriving DecidableEq, Repr

instance : Named LeaveAction where
  all := [.approved, .rejected, .canceled]
  name
    | .approved => "APPROVED"
    | .rejected => "REJECTED"
    | .canceled => "CANCELED"

/-- The state that an action leaves a request in. -/
def LeaveAction.resultingState : LeaveAction → LeaveState
  | .approved => .approved
  | .rejected => .rejected
  | .canceled => .canceled

/-- An action that was taken on a request, by whom and why. -/
structure LeaveDecision where
  request : String
  action : LeaveAction
  actor : String
  role : Role
  reason : Option String
  recordedAt : Instant
deriving DecidableEq, Repr

/-- What is to be different in a request; what is missing stays. -/
structure LeaveChanges where
  kind : Option LeaveKind
  start : Option ZonedTime
  finish : Option ZonedTime
  reason : Option String
deriving DecidableEq, Repr

namespace LeaveRequest

/-- The request with changes; `days` is the number of days it takes then. -/
def amend (r : LeaveRequest) (c : LeaveChanges) (days : Int)
    (now : Instant) : LeaveRequest :=
  { r with
    kind := c.kind.getD r.kind
    start := c.start.getD r.start
    finish := c.finish.getD r.finish
    days
    reason := c.reason.or r.reason
    updatedAt := now }

/-- The request as an action of an actor leaves it. -/
def decide (r : LeaveRequest) (a : Actor) (action : LeaveAction)
    (reason : Option String) (now : Instant) : LeaveRequest :=
  { r with
    state := action.resultingState
    decisionReason := reason
    decidedBy := some a.id
    decidedAt := some now
    updatedAt := now }

/-- The log entry of an action of an actor on the request. -/
def decision (r : LeaveRequest) (a : Actor) (action : LeaveAction)
    (reason : Option String) (now : Instant) : LeaveDecision :=
  { request := r.id
    action
    actor := a.id
    role := a.role
    reason
    recordedAt := now }

end LeaveRequest
end Workforce
