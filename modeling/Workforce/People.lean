import Workforce.Access.Tenant
import Workforce.Time.Instant

/-!
Organizations and the employees they have.
-/

namespace Workforce

/-- A tenant. -/
structure Organization where
  id : String
  name : String
  createdAt : Instant
deriving DecidableEq, Repr

/-- An organization is its own. -/
instance : Owned Organization := ⟨fun o => some o.id⟩

/-- Somebody whose time, leave and pay are kept. -/
structure Employee where
  id : String
  organization : Option String
  name : Option String
  email : Option String
  active : Bool
  createdAt : Instant
  updatedAt : Instant
deriving DecidableEq, Repr

instance : Owned Employee := ⟨Employee.organization⟩

end Workforce
