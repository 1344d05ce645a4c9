import Workforce.Text.Named

/-!
Who asks: actors and the roles they hold.
-/

namespace Workforce

/-- What an actor is to the organization. A system actor belongs to the
platform and to no organization in particular. -/
inductive Role where
  | admin
  | manager
  | employee
  | payrollOperator
  | system
deriving DecidableEq, Repr

instance : Named Role where
  all := [.admin, .manager, .employee, .payrollOperator, .system]
  name
    | .admin => "admin"
    | .manager => "manager"
    | .employee => "employee"
    | .payrollOperator => "payroll_operator"
    | .system => "system"

/-- Somebody whose identity has been established. The id of an employee's
actor is the id of the employee. -/
structure Actor where
  id : String
  role : Role
  organization : Option String
deriving DecidableEq, Repr

namespace Actor

/-- Whether the actor belongs to the platform. -/
def isPlatform (a : Actor) : Bool :=
  a.role == .system

/-- The same actor, in an organization. -/
def inOrganization (a : Actor) (organization : String) : Actor :=
  { a with organization := some organization }

end Actor
end Workforce
