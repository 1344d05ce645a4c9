import Workforce.Service.Context
import Workforce.Store.Attendance
import Workforce.Store.Payroll
import Workforce.Wire.Pay

/-!
Operations on payroll runs and deduction profiles.
-/

namespace Workforce.Service

open Wire

/-- A period to be priced, on terms that may be left to the configuration. -/
structure PreviewInput where
  periodStart : ZonedTime
  periodEnd : ZonedTime
  employee : Option String
  hourlyRate : Option Int
  multipliers : Option Multipliers
deriving DecidableEq, Repr

/-- What a profile is to hold. -/
structure ProfileInput where
  name : String
  mode : DeductionMode
  withholdingRate : Option Decimal
  socialInsuranceRate : Option Decimal
  fixedOther : Int
  active : Bool
deriving DecidableEq, Repr

/-- A period, and what its approved records come to. -/
structure PricedPeriod where
  totals : PayableMinutes
  sourceRecordCount : Nat
  breakdown : GrossBreakdown
  hourlyRate : Int
  multipliers : Multipliers
deriving DecidableEq, Repr

/-- The period of an input. -/
def PreviewInput.period (input : PreviewInput) : Period :=
  ⟨input.periodStart.instant, input.periodEnd.instant⟩

/-! ## Pricing -/

/-- The minutes of the closed records of a list. -/
def totalMinutes (records : List AttendanceRecord) :
    Except Overflow PayableMinutes := do
  let shifts ← (records.filterMap (·.workInterval)).mapM WorkInterval.split
  return PayableMinutes.sum shifts

/-- Prices the approved records of a period. -/
def pricePeriod (ctx : Context) (st : Store) (scope : TenantScope)
    (input : PreviewInput) : Outcome PricedPeriod := do
  ensurePeriod input.period
  let hourlyRate := input.hourlyRate.getD ctx.config.payroll.hourlyRate
  Outcome.ensure (0 < hourlyRate)
    (.validation "hourlyRateKrw must be a positive integer")
  let multipliers := input.multipliers.getD ctx.config.payroll.multipliers
  multipliers.validate
  if let some id := input.employee then
    let _ ← requireEmployee st scope id
  let records := st.listRecords input.period
    ⟨scope.organization?, input.employee⟩ (some .approved)
  let totals ← Outcome.ofAmount (totalMinutes records)
  let breakdown ←
    Outcome.ofAmount (grossBreakdown totals hourlyRate multipliers)
  return {
    totals
    sourceRecordCount := records.length
    breakdown
    hourlyRate
    multipliers }

/-- A new run for a priced period, without deductions. -/
def PricedPeriod.toRun (p : PricedPeriod) (ctx : Context)
    (scope : TenantScope) (input : PreviewInput) : PayrollRun :=
  { id := ctx.fresh .run
    organization := scope.organization?
    employee := input.employee
    periodStart := input.periodStart
    periodEnd := input.periodEnd
    state := .previewed
    totals := p.totals
    grossPay := p.breakdown.grossPay
    deductions := none
    netPay := none
    sourceRecordCount := p.sourceRecordCount
    confirmedAt := none
    confirmedBy := none
    createdAt := ctx.now
    updatedAt := ctx.now }

/-- A run with the terms on which it was priced. -/
def PricedPeriod.toPreview (p : PricedPeriod) (run : PayrollRun) :
    PayrollPreview :=
  { run
    breakdown := p.breakdown
    hourlyRate := p.hourlyRate
    multipliers := p.multipliers }

/-- A notice about a run. -/
def runNotice (ctx : Context) (actor : Actor) (action : Action)
    (r : PayrollRun) (payload : Json) : Notice :=
  ctx.notice actor action (some r.id) r.organization (some payload)

/-! ## Previews -/

/-- Passes an actor who may preview payroll. -/
def requirePreviewer (actor : Actor) : Outcome Unit :=
  actor.require .runPreview
    "payroll preview requires admin or payroll_operator role"

/-- Previews the gross pay of a period. -/
def previewPayroll (ctx : Context) (st : Store) (input : PreviewInput) :
    Outcome (Effect PayrollPreview) := do
  let (actor, scope) ← ctx.authorize
  requirePreviewer actor
  let priced ← pricePeriod ctx st scope input
  let run := priced.toRun ctx scope input
  let payload : Json := .obj
    [("employeeId", encode run.employee),
      ("periodStart", encode run.periodStart),
      ("periodEnd", encode run.periodEnd), ("totals", encode run.totals),
      ("grossPayKrw", encode run.grossPay),
      ("sourceRecordCount", encode run.sourceRecordCount)]
  return .told (st.insertRun run)
    (runNotice ctx actor .payrollCalculated run payload)
    (priced.toPreview run)

/-- Prices a period, deducts what is asked for and keeps the run. A profile
outside the scope counts for none. -/
def previewNet (ctx : Context) (st : Store) (actor : Actor)
    (scope : TenantScope) (input : PreviewInput)
    (request : DeductionRequest) : Outcome (Effect PayrollPreview) := do
  let priced ← pricePeriod ctx st scope input
  let profile := (request.profileId.bind st.profiles.get?).filter
    fun p => scope.permits p.organization
  let grossPay := priced.breakdown.grossPay
  let summary ← resolveDeductions grossPay request profile
  let netPay := summary.netPay grossPay
  let run : PayrollRun := { priced.toRun ctx scope input with
    deductions := some summary
    netPay := some netPay }
  let payload : Json := .obj
    [("employeeId", encode run.employee),
      ("periodStart", encode run.periodStart),
      ("periodEnd", encode run.periodEnd),
      ("grossPayKrw", encode run.grossPay),
      ("deductionMode", encode request.mode),
      ("totalDeductionsKrw", encode summary.total),
      ("netPayKrw", encode netPay),
      ("deductionProfileId", encode summary.profileId),
      ("deductionProfileVersion", encode summary.profileVersion)]
  return .told (st.insertRun run)
    (runNotice ctx actor .payrollDeductionsCalculated run payload)
    (priced.toPreview run)

/-- A preview that was refused, with a notice that says so; `details` come
after the status and the text of the fault. -/
def refusedPreview (ctx : Context) (st : Store) (actor : Actor)
    (scope : TenantScope) (action : Action) (fault : Fault)
    (details : List (String × Json)) : Effect PayrollPreview :=
  .refused st
    (ctx.notice actor action none scope.organization?
      (some (.obj ([("status", encode fault.status),
        ("message", encode fault.text)] ++ details)))) fault

/-- Previews the gross and the net pay of a period. That a feature is off, and
that the state stands in the way, is told as well as refused. -/
def previewPayrollWithDeductions (ctx : Context) (st : Store)
    (input : PreviewInput) (request : DeductionRequest) :
    Outcome (Effect PayrollPreview) := do
  let (actor, scope) ← ctx.authorize
  requirePreviewer actor
  let features := ctx.config.features
  let disabled (flag : String) : Effect PayrollPreview :=
    refusedPreview ctx st actor scope .payrollPreviewDisabled
      (.conflict s!"{flag} feature flag is disabled") []
  if !features.payrollDeductions then
    return disabled "payroll_deductions_v1"
  if request.mode == .profile && !features.deductionProfile then
    return disabled "deduction_profile_v1"
  match previewNet ctx st actor scope input request with
  | .error (.refused fault) =>
    if fault.isConflict then
      return refusedPreview ctx st actor scope .payrollPreviewConflict fault
        [("deductionMode", encode request.mode),
          ("profileId", encode request.profileId)]
    else
      Outcome.refuse fault
  | result => result

/-! ## Runs -/

/-- Confirms a previewed run. -/
def confirmRun (ctx : Context) (st : Store) (id : String) :
    Outcome (Effect PayrollRun) := do
  let (actor, scope) ← ctx.authorize
  actor.require .runConfirm
    "payroll confirm requires admin or payroll_operator role"
  let existing ← scope.visible (st.payroll.get? id) "payroll run not found"
  Outcome.ensure (existing.state = .previewed)
    (.conflict "payroll run already confirmed")
  let payload (r : PayrollRun) : Json := .obj
    [("employeeId", encode r.employee), ("grossPayKrw", encode r.grossPay),
      ("netPayKrw", encode r.netPay),
      ("confirmedAt", encode r.confirmedAt)]
  return .ofChange (st.confirmRun existing.id actor.id ctx.now) fun r =>
    runNotice ctx actor .payrollConfirmed r (payload r)

/-- The runs within the scope, for an employee and in a state as far as these
are asked for. -/
def listRuns (ctx : Context) (st : Store) (employee : Option String)
    (state : Option PayrollState) : Outcome (List PayrollRun) := do
  let (actor, scope) ← ctx.authorize
  actor.require .runList "insufficient permissions"
  return st.listRuns scope.organization? employee state

/-! ## Profiles -/

/-- A notice about a profile. -/
def profileNotice (ctx : Context) (actor : Actor) (action : Action)
    (p : DeductionProfile) (payload : Json) : Notice :=
  ctx.notice actor action (some p.id) p.organization (some payload)

/-- The profile of an id. -/
def readProfile (ctx : Context) (st : Store) (id : String) :
    Outcome (Effect DeductionProfile) := do
  let (actor, scope) ← ctx.authorize
  actor.require .profileRead "insufficient permissions"
  let p ← scope.visible (st.profiles.get? id) "deduction profile not found"
  let payload : Json := .obj [("version", encode p.version)]
  return .told st (profileNotice ctx actor .deductionProfileRead p payload) p

/-- Passes a rate between zero and one, or none. -/
def ensureRate (field : String) (rate : Option Decimal) : Outcome Unit :=
  Outcome.ensure (rate.all Decimal.isFraction)
    (.validation s!"{field} must be between 0 and 1")

/-- Passes what a profile may hold. -/
def ensureProfile (id : String) (input : ProfileInput) : Outcome Unit := do
  Outcome.ensure (!Text.allBlank id) (.validation "profileId is required")
  Outcome.ensure (!Text.allBlank input.name) (.validation "name is required")
  ensureRate "withholdingRate" input.withholdingRate
  ensureRate "socialInsuranceRate" input.socialInsuranceRate
  Outcome.ensure (0 ≤ input.fixedOther)
    (.validation "fixedOtherDeductionKrw must be a non-negative integer")

/-- What is to be kept of an input within a scope. -/
def ProfileInput.toDraft (input : ProfileInput) (id : String)
    (scope : TenantScope) : Store.ProfileDraft :=
  { id := Text.trim id
    organization := scope.organization?
    name := Text.trim input.name
    mode := input.mode
    withholdingRate := input.withholdingRate
    socialInsuranceRate := input.socialInsuranceRate
    fixedOther := input.fixedOther
    active := input.active }

/-- Writes the next version of a profile, or the first of a new one. -/
def upsertProfile (ctx : Context) (st : Store) (id : String)
    (input : ProfileInput) : Outcome (Effect DeductionProfile) := do
  let (actor, scope) ← ctx.authorize
  actor.require .profileWrite "insufficient permissions"
  ensureProfile id input
  let payload (p : DeductionProfile) : Json := .obj
    [("name", encode p.name), ("mode", encode p.mode),
      ("withholdingRate", encode p.withholdingRate),
      ("socialInsuranceRate", encode p.socialInsuranceRate),
      ("fixedOtherDeductionKrw", encode p.fixedOther),
      ("active", encode p.active), ("version", encode p.version)]
  return .ofChange (st.upsertProfile scope (input.toDraft id scope) ctx.now)
    fun p => profileNotice ctx actor .deductionProfileUpdated p (payload p)

end Workforce.Service
