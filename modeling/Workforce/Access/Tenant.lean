import Workforce.Access.Actor
import Workforce.Access.Permission
import Workforce.Fault
import Workforce.Text.Blank

/-!
Tenant scopes: what an actor can see at all. What belongs to another
organization is to a confined actor as if it did not exist.
-/

namespace Workforce

/-- Everything, or what one organization owns. -/
inductive TenantScope where
  | everything
  | organization (id : String)
deriving DecidableEq, Repr

/-- What has an organization as its owner, or nobody. -/
class Owned (α : Type) where
  owner : α → Option String

namespace TenantScope

/-- The scope of an actor. Without tenancy everybody sees everything; with it
only a platform actor does, and any other needs an organization. -/
def resolve (actor : Option Actor) (tenancy : Bool) : Outcome TenantScope := do
  if !tenancy then
    return .everything
  let a ← requireActor actor
  if a.isPlatform then
    return .everything
  match a.organization with
  | some id =>
    if Text.allBlank id then
      Outcome.refuse (.unauthenticated "missing tenant context")
    else
      return .organization id
  | none => Outcome.refuse (.unauthenticated "missing tenant context")

/-- The organization to which a scope is confined. -/
def organization? : TenantScope → Option String
  | everything => none
  | organization id => some id

/-- Whether a scope leaves nothing out. -/
def isEverything : TenantScope → Bool
  | everything => true
  | organization _ => false

/-- Whether what this owner has is within a scope. -/
def permits (s : TenantScope) (owner : Option String) : Bool :=
  match s with
  | everything => true
  | organization id => owner == some id

/-- Passes an owner within the scope; any other is not found. -/
def ensureMatch (s : TenantScope) (owner : Option String) (message : String) :
    Outcome Unit :=
  Outcome.ensure (s.permits owner) (.notFound message)

/-- The entity, if it is there and within the scope; it is not found
otherwise. -/
def visible {α : Type} [Owned α] (s : TenantScope) (entity : Option α)
    (message : String) : Outcome α :=
  Outcome.demand (entity.filter fun e => s.permits (Owned.owner e))
    (.notFound message)

end TenantScope
end Workforce
