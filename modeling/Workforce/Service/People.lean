import Workforce.Service.Context
import Workforce.Store.People
import Workforce.Wire.People

/-!
Operations on organizations and employees.
-/

namespace Workforce.Service

open Wire

/-- An employee to be added. -/
structure NewEmployee where
  id : String
  organization : Option String
  name : Option String
  email : Option String
  active : Option Bool
deriving DecidableEq, Repr

/-- What is to be different in an employee; what is missing stays. -/
structure EmployeeChanges where
  organization : Option String
  name : Option String
  email : Option String
  active : Option Bool
deriving DecidableEq, Repr

/-- The employee with changes, in an organization. -/
def EmployeeChanges.apply (c : EmployeeChanges) (e : Employee)
    (organization : Option String) (now : Instant) : Employee :=
  { e with
    organization
    name := c.name.or e.name
    email := c.email.or e.email
    active := c.active.getD e.active
    updatedAt := now }

/-- Who asks, and their scope, if they may manage people in this way. -/
def authorizePeople (ctx : Context) (p : Permission) (deed : String) :
    Outcome (Actor × TenantScope) := do
  let (actor, scope) ← ctx.authorize
  actor.require p s!"people {deed} requires admin role"
  return (actor, scope)

/-- The organization, if there is one within the scope. -/
def requireOrganization (st : Store) (scope : TenantScope) (id : String) :
    Outcome Organization :=
  scope.visible (st.organizations.get? id) "organization not found"

/-- Where an employee is placed: in the organization asked for, or in that of
the scope, if there is either. -/
def placement (st : Store) (scope : TenantScope)
    (requested : Option String) : Outcome (Option String) := do
  match requested.or scope.organization? with
  | some id =>
    let o ← requireOrganization st scope id
    return some o.id
  | none => return none

/-- What is told of an employee. -/
def employeeDetails (e : Employee) : Json := .obj
  [("organizationId", encode e.organization), ("name", encode e.name),
    ("email", encode e.email), ("active", encode e.active)]

/-! ## Organizations -/

/-- Adds an organization. -/
def createOrganization (ctx : Context) (st : Store) (name : String) :
    Outcome (Effect Organization) := do
  let (actor, scope) ←
    authorizePeople ctx .organizationsManage "create organization"
  Outcome.ensure scope.isEverything
    (.forbidden "people create organization requires platform scope")
  let name := Text.trim name
  Outcome.ensure (name ≠ "") (.validation "name is required")
  let o : Organization := ⟨ctx.fresh .organization, name, ctx.now⟩
  return .ofChange (st.insertOrganization o) fun o =>
    ctx.notice actor .organizationCreated (some o.id) (some o.id)
      (some (.obj [("name", encode o.name)]))

/-- The organizations within the scope. -/
def listOrganizations (ctx : Context) (st : Store) :
    Outcome (List Organization) := do
  let (_, scope) ←
    authorizePeople ctx .organizationsManage "list organizations"
  return st.listOrganizations scope.organization?

/-- The organization of an id. -/
def getOrganization (ctx : Context) (st : Store) (id : String) :
    Outcome Organization := do
  let (_, scope) ← authorizePeople ctx .organizationsManage "get organization"
  requireOrganization st scope id

/-! ## Employees -/

/-- Adds an employee, who is active unless it is said otherwise. -/
def createEmployee (ctx : Context) (st : Store) (input : NewEmployee) :
    Outcome (Effect Employee) := do
  let (actor, scope) ← authorizePeople ctx .employeesManage "create employee"
  let id := Text.trim input.id
  Outcome.ensure (id ≠ "") (.validation "id is required")
  let organization ← placement st scope input.organization
  let e : Employee :=
    { id
      organization
      name := input.name
      email := input.email
      active := input.active.getD true
      createdAt := ctx.now
      updatedAt := ctx.now }
  return .ofChange (st.insertEmployee e) fun e =>
    ctx.notice actor .employeeCreated (some e.id) e.organization
      (some (employeeDetails e))

/-- The employees within the scope, active or not if this is asked for. -/
def listEmployees (ctx : Context) (st : Store) (active : Option Bool) :
    Outcome (List Employee) := do
  let (_, scope) ← authorizePeople ctx .employeesManage "list employees"
  return (st.listEmployees scope.organization?).filter fun e =>
    wanted active e.active

/-- The employee of an id. -/
def getEmployee (ctx : Context) (st : Store) (id : String) :
    Outcome Employee := do
  let (_, scope) ← authorizePeople ctx .employeesManage "get employee"
  requireEmployee st scope id

/-- Changes what is kept of an employee. -/
def updateEmployee (ctx : Context) (st : Store) (id : String)
    (changes : EmployeeChanges) : Outcome (Effect Employee) := do
  let (actor, scope) ← authorizePeople ctx .employeesManage "update employee"
  let existing ← requireEmployee st scope id
  let organization ← match changes.organization with
    | some requested => placement st scope (some requested)
    | none => pure existing.organization
  let e := changes.apply existing organization ctx.now
  return .ofChange (st.updateEmployee e) fun e =>
    ctx.notice actor .employeeUpdated (some e.id) e.organization
      (some (.obj [("before", employeeDetails existing),
        ("after", employeeDetails e)]))

end Workforce.Service
