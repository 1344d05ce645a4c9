import Workforce.Store.Basic

/-!
Keeping payroll runs and deduction profiles.
-/

namespace Workforce.Store

/-! ## Runs -/

/-- Keeps a run, in the place of one with its id. -/
def insertRun (st : Store) (r : PayrollRun) : Store :=
  { st with payroll := st.payroll.put r }

/-- A run as it is when somebody has confirmed it. -/
def confirmedRun (r : PayrollRun) (actor : String) (time : Instant) :
    PayrollRun :=
  { r with
    state := .confirmed
    confirmedAt := some time
    confirmedBy := some actor
    updatedAt := time }

/-- Confirms a run that is kept and not confirmed yet. -/
def confirmRun (st : Store) (id actor : String) (time : Instant) :
    Outcome PayrollRun × Store :=
  match st.payroll.get? id with
  | some r =>
    if r.state = .previewed then
      let r := confirmedRun r actor time
      (.ok r, st.insertRun r)
    else
      (Outcome.refuse (.conflict "payroll run already confirmed"), st)
  | none => (Outcome.refuse (.conflict "payroll run no longer exists"), st)

/-- The runs of an organization, for an employee, in a state, as far as these
are asked for; the latest first, and then by id. -/
def listRuns (st : Store) (organization employee : Option String)
    (state : Option PayrollState) : List PayrollRun :=
  sortBy (byTimeDown (·.createdAt)) <| st.payroll.rows.filter fun r =>
    wantedOwner organization r.organization &&
      wantedOwner employee r.employee && wanted state r.state

/-! ## Profiles -/

/-- What is to be kept under the id of a profile. -/
structure ProfileDraft where
  id : String
  organization : Option String
  name : String
  mode : DeductionMode
  withholdingRate : Option Decimal
  socialInsuranceRate : Option Decimal
  fixedOther : Int
  active : Bool
deriving DecidableEq, Repr

/-- The first version of a profile. -/
def ProfileDraft.create (d : ProfileDraft) (now : Instant) :
    DeductionProfile :=
  { id := d.id
    organization := d.organization
    name := d.name
    mode := d.mode
    withholdingRate := d.withholdingRate
    socialInsuranceRate := d.socialInsuranceRate
    fixedOther := d.fixedOther
    active := d.active
    version := 1
    createdAt := now
    updatedAt := now }

/-- The next version of a profile, which stays with its owner. -/
def ProfileDraft.revise (d : ProfileDraft) (p : DeductionProfile)
    (now : Instant) : DeductionProfile :=
  { d.create now with
    organization := p.organization
    version := p.version + 1
    createdAt := p.createdAt }

/-- Keeps a profile: the first version under a new id, or else the next one,
if the profile is within the scope. -/
def upsertProfile (st : Store) (scope : TenantScope) (d : ProfileDraft)
    (now : Instant) : Outcome DeductionProfile × Store :=
  let keep (p : DeductionProfile) : Outcome DeductionProfile × Store :=
    (.ok p, { st with profiles := st.profiles.put p })
  match st.profiles.get? d.id with
  | some p =>
    if scope.permits p.organization then
      keep (d.revise p now)
    else
      (Outcome.refuse (.notFound "deduction profile not found"), st)
  | none => keep (d.create now)

end Workforce.Store
