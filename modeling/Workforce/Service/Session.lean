import Workforce.Service.Call
import Workforce.Store.Call

/-!
Sessions: a store and the ids that were given to new entities, which are
numbered by kind. A number is used up when an entity is made, even if this
could not be told, or was not.
-/

namespace Workforce

/-- The letters in front of the numbers of a kind. -/
def IdKind.letters : IdKind → String
  | .record => "AR"
  | .leave => "LR"
  | .schedule => "WS"
  | .run => "PR"
  | .organization => "ORG"

/-- The kind of entity that an action makes, if it makes one with a number. -/
def Action.makes : Action → Option IdKind
  | .attendanceRecorded => some .record
  | .leaveRequested => some .leave
  | .scheduleAssigned => some .schedule
  | .payrollCalculated => some .run
  | .payrollDeductionsCalculated => some .run
  | .organizationCreated => some .organization
  | _ => none

/-- What can be asked for in a session: an operation, or a request to the
store itself. -/
inductive Request where
  | call (c : Call)
  | store (c : StoreCall)

/-- A store, and how many ids of each kind were given. -/
structure Session where
  store : Store
  given : IdKind → Nat

/-- What a request is given besides its arguments. -/
structure Setting where
  config : Config
  actor : Option Actor
  now : Instant
  sinks : Sinks

namespace Session

/-- A session with nothing in store. -/
def start : Session := ⟨Store.empty, fun _ => 0⟩

/-- The next id of a kind. -/
def fresh (s : Session) (kind : IdKind) : String :=
  kind.letters ++ "-" ++
    String.ofList (Text.digits (s.given kind + 1))

/-- Whether a call has made an entity of a kind: one that is told, or a schedule
that is kept without being told. -/
def makes (s : Session) (e : Effect Reply) (kind : IdKind) : Bool :=
  e.notice.bind (·.action.makes) = some kind ||
    kind == .schedule &&
      s.store.schedules.rows.length < e.store.schedules.rows.length

/-- How many ids are given after a call. -/
def givenAfter (s : Session) (e : Effect Reply) (kind : IdKind) : Nat :=
  if s.makes e kind then s.given kind + 1 else s.given kind

/-- Carries a request out. -/
def step (s : Session) (setting : Setting) :
    Request → Outcome Reply × Session
  | .call c =>
    let ctx : Context :=
      { config := setting.config
        actor := setting.actor
        now := setting.now
        fresh := s.fresh }
    let effect := c.effect ctx s.store
    let (reply, store) := effect.record setting.sinks
    (reply, ⟨store, s.givenAfter effect⟩)
  | .store c =>
    let (reply, store) := c.perform setting.now setting.sinks s.store
    (reply, { s with store })

end Session
end Workforce
