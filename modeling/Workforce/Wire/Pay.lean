import Workforce.Pay.Run
import Workforce.Wire.Attendance
import Workforce.Wire.Basic

/-!
The wire form of pay: factors, breakdowns, deductions, profiles and runs.
-/

namespace Workforce.Wire

instance : Wire Multipliers where
  encode m := .obj
    [("regular", encode m.regular), ("overtime", encode m.overtime),
      ("night", encode m.night), ("holiday", encode m.holiday)]
  decode j := do
    let ms ← members? ["regular", "overtime", "night", "holiday"] 4 j
    return {
      regular := ← required ms "regular"
      overtime := ← required ms "overtime"
      night := ← required ms "night"
      holiday := ← required ms "holiday" }

instance : Wire GrossBreakdown where
  encode b := .obj
    [("regular", encode b.regular), ("overtime", encode b.overtime),
      ("night", encode b.night), ("holiday", encode b.holiday),
      ("gross_pay_krw", encode b.grossPay)]
  decode j := do
    let ms ← members?
      ["regular", "overtime", "night", "holiday", "gross_pay_krw"] 5 j
    return {
      regular := ← required ms "regular"
      overtime := ← required ms "overtime"
      night := ← required ms "night"
      holiday := ← required ms "holiday"
      grossPay := ← required ms "gross_pay_krw" }

instance : Wire Itemisation where
  encode items := .obj (items.entries.map fun e => (e.1, encode e.2))
  decode
    | .obj members => do
      let entries ← members.mapM fun m => do
        return (m.1, ← decode m.2)
      return Itemisation.ofList entries
    | _ => none

instance : Wire ManualDeductions where
  encode d := .obj
    [("withholding_tax_krw", encode d.withholdingTax),
      ("social_insurance_krw", encode d.socialInsurance),
      ("other_deductions_krw", encode d.other),
      ("breakdown", encode d.breakdown)]
  decode j := do
    let ms ← members?
      ["withholding_tax_krw", "social_insurance_krw", "other_deductions_krw",
        "breakdown"] 3 j
    return {
      withholdingTax := ← required ms "withholding_tax_krw"
      socialInsurance := ← required ms "social_insurance_krw"
      other := ← required ms "other_deductions_krw"
      breakdown := ← defaulted ms "breakdown" Itemisation.empty }

/-- A request with its mode taken off. -/
def decodeRequest (mode : DeductionMode) (j : Json) :
    Option DeductionRequest :=
  match mode with
  | .manual => (decode j).map .manual
  | .profile => do
    let ms ← members? ["profile_id", "expected_profile_version"] 2 j
    return .profile (← required ms "profile_id")
      (← required ms "expected_profile_version")

/-- The mode that a request begins with, which has to be a bare name. -/
def decodeMode : Json → Option DeductionMode
  | .str s => Named.ofName? s
  | _ => none

/-- The fields of a request stand beside its mode. -/
instance : Wire DeductionRequest where
  encode
    | .manual d => .obj
      [("mode", encode DeductionMode.manual),
        ("withholding_tax_krw", encode d.withholdingTax),
        ("social_insurance_krw", encode d.socialInsurance),
        ("other_deductions_krw", encode d.other),
        ("breakdown", encode d.breakdown)]
    | .profile id version => .obj
      [("mode", encode DeductionMode.profile), ("profile_id", encode id),
        ("expected_profile_version", encode version)]
  decode
    | .obj members => do
      decodeRequest (← (members.lookup "mode").bind decodeMode) (.obj members)
    | .arr (mode :: fields) => do
      decodeRequest (← decodeMode mode) (.arr fields)
    | _ => none

instance : Wire DeductionSummary where
  encode s := .obj
    [("mode", encode s.mode), ("withholding_tax_krw", encode s.withholdingTax),
      ("social_insurance_krw", encode s.socialInsurance),
      ("other_deductions_krw", encode s.other),
      ("total_deductions_krw", encode s.total),
      ("profile_id", encode s.profileId),
      ("profile_version", encode s.profileVersion),
      ("breakdown", s.breakdown)]
  decode j := do
    let ms ← members?
      ["mode", "withholding_tax_krw", "social_insurance_krw",
        "other_deductions_krw", "total_deductions_krw", "profile_id",
        "profile_version", "breakdown"] 8 j
    return {
      mode := ← required ms "mode"
      withholdingTax := ← required ms "withholding_tax_krw"
      socialInsurance := ← required ms "social_insurance_krw"
      other := ← required ms "other_deductions_krw"
      total := ← required ms "total_deductions_krw"
      profileId := ← optional ms "profile_id"
      profileVersion := ← optional ms "profile_version"
      breakdown := ← required ms "breakdown" }

instance : Wire DeductionProfile where
  encode p := .obj
    [("id", encode p.id), ("organization_id", encode p.organization),
      ("name", encode p.name), ("mode", encode p.mode),
      ("withholding_rate", encode p.withholdingRate),
      ("social_insurance_rate", encode p.socialInsuranceRate),
      ("fixed_other_deduction_krw", encode p.fixedOther),
      ("active", encode p.active), ("version", encode p.version),
      ("created_at", encode p.createdAt), ("updated_at", encode p.updatedAt)]
  decode j := do
    let ms ← members?
      ["id", "organization_id", "name", "mode", "withholding_rate",
        "social_insurance_rate", "fixed_other_deduction_krw", "active",
        "version", "created_at", "updated_at"] 11 j
    return {
      id := ← required ms "id"
      organization := ← optional ms "organization_id"
      name := ← required ms "name"
      mode := ← required ms "mode"
      withholdingRate := ← optional ms "withholding_rate"
      socialInsuranceRate := ← optional ms "social_insurance_rate"
      fixedOther := ← required ms "fixed_other_deduction_krw"
      active := ← required ms "active"
      version := ← required ms "version"
      createdAt := ← required ms "created_at"
      updatedAt := ← required ms "updated_at" }

instance : Wire PayrollRun where
  encode r := .obj
    [("id", encode r.id), ("organization_id", encode r.organization),
      ("employee_id", encode r.employee),
      ("period_start", encode r.periodStart),
      ("period_end", encode r.periodEnd), ("state", encode r.state),
      ("totals", encode r.totals), ("gross_pay_krw", encode r.grossPay),
      ("deductions", encode r.deductions), ("net_pay_krw", encode r.netPay),
      ("source_record_count", encode r.sourceRecordCount),
      ("confirmed_at", encode r.confirmedAt),
      ("confirmed_by", encode r.confirmedBy),
      ("created_at", encode r.createdAt), ("updated_at", encode r.updatedAt)]
  decode j := do
    let ms ← members?
      ["id", "organization_id", "employee_id", "period_start", "period_end",
        "state", "totals", "gross_pay_krw", "deductions", "net_pay_krw",
        "source_record_count", "confirmed_at", "confirmed_by", "created_at",
        "updated_at"] 15 j
    return {
      id := ← required ms "id"
      organization := ← optional ms "organization_id"
      employee := ← optional ms "employee_id"
      periodStart := ← required ms "period_start"
      periodEnd := ← required ms "period_end"
      state := ← required ms "state"
      totals := ← required ms "totals"
      grossPay := ← required ms "gross_pay_krw"
      deductions := ← optional ms "deductions"
      netPay := ← optional ms "net_pay_krw"
      sourceRecordCount := ← required ms "source_record_count"
      confirmedAt := ← optional ms "confirmed_at"
      confirmedBy := ← optional ms "confirmed_by"
      createdAt := ← required ms "created_at"
      updatedAt := ← required ms "updated_at" }

/-- The wire form of a preview. -/
def encodePreview (p : PayrollPreview) : Json := .obj
  [("run", encode p.run), ("breakdown", encode p.breakdown),
    ("hourly_rate_krw", encode p.hourlyRate),
    ("multipliers", encode p.multipliers)]

end Workforce.Wire
