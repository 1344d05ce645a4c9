import Workforce.Store.Basic

/-!
Keeping organizations and employees.
-/

namespace Workforce.Store

/-- Keeps an employee whose id is new. -/
def insertEmployee (st : Store) (e : Employee) : Outcome Employee × Store :=
  if st.employees.contains e.id then
    (Outcome.refuse (.conflict "employee already exists"), st)
  else
    (.ok e, { st with employees := st.employees.put e })

/-- Replaces an employee who is kept. -/
def updateEmployee (st : Store) (e : Employee) : Outcome Employee × Store :=
  if st.employees.contains e.id then
    (.ok e, { st with employees := st.employees.put e })
  else
    (Outcome.refuse (.notFound "employee not found"), st)

/-- The employees of an organization, if one is asked for, by id. -/
def listEmployees (st : Store) (organization : Option String) :
    List Employee :=
  sortBy byKey <| st.employees.rows.filter fun e =>
    wantedOwner organization e.organization

/-- Keeps an organization whose id is new. -/
def insertOrganization (st : Store) (o : Organization) :
    Outcome Organization × Store :=
  if st.organizations.contains o.id then
    (Outcome.refuse (.conflict "organization already exists"), st)
  else
    (.ok o, { st with organizations := st.organizations.put o })

/-- The organizations, or the one that is asked for, by creation and id. -/
def listOrganizations (st : Store) (organization : Option String) :
    List Organization :=
  sortBy (byTime (·.createdAt)) <| st.organizations.rows.filter fun o =>
    wanted organization o.id

end Workforce.Store
