import Workforce.Config.Basic
import Workforce.Service.Effect

/-!
What an operation is given besides its arguments, and the checks that several
operations share.
-/

namespace Workforce

/-- The kinds of entities that get an id when they are made. -/
inductive IdKind where
  | record
  | leave
  | schedule
  | run
  | organization
deriving DecidableEq, Repr

/-- The configuration, who asks, what the clock shows, and an id for a new
entity of each kind. -/
structure Context where
  config : Config
  actor : Option Actor
  now : Instant
  fresh : IdKind → String

namespace Context

/-- Who asks, and what is within their scope. -/
def authorize (ctx : Context) : Outcome (Actor × TenantScope) := do
  let scope ← TenantScope.resolve ctx.actor ctx.config.features.tenancy
  let actor ← requireActor ctx.actor
  return (actor, scope)

/-- A notice of what an actor does at present. -/
def notice (ctx : Context) (actor : Actor) (action : Action)
    (entity organization : Option String) (payload : Option Json) : Notice :=
  { action, actor, entity, organization, payload, time := ctx.now }

end Context

namespace Service

/-- The employee, if there is one within the scope. -/
def requireEmployee (st : Store) (scope : TenantScope) (id : String) :
    Outcome Employee :=
  scope.visible (st.employees.get? id) "employee not found"

/-- Passes a period that ends after it starts. -/
def ensurePeriod (p : Period) : Outcome Unit :=
  Outcome.ensure (p.start < p.finish)
    (.validation "periodEnd must be after periodStart")

/-- Passes a break of up to five hours and notes of up to a thousand
characters. -/
def ensureBreakAndNotes (breakMinutes : Int) (notes : Option String) :
    Outcome Unit := do
  Outcome.ensure (0 ≤ breakMinutes ∧ breakMinutes ≤ 300)
    (.validation "breakMinutes must be between 0 and 300")
  Outcome.ensure (notes.all fun s => s.length ≤ 1000)
    (.validation "notes must be at most 1000 characters")

end Service
end Workforce
