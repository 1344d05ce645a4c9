import Workforce.Config.Basic
import Workforce.Wire.Pay

/-!
The wire form of a configuration. What is missing keeps its standard value.
-/

namespace Workforce.Wire

instance : Wire FeatureFlags where
  encode f := .obj
    [("tenancy", encode f.tenancy),
      ("payroll_deductions", encode f.payrollDeductions),
      ("deduction_profile", encode f.deductionProfile)]
  decode j := do
    let ms ← members?
      ["tenancy", "payroll_deductions", "deduction_profile"] 0 j
    let standard := FeatureFlags.allOff
    return {
      tenancy := ← defaulted ms "tenancy" standard.tenancy
      payrollDeductions :=
        ← defaulted ms "payroll_deductions" standard.payrollDeductions
      deductionProfile :=
        ← defaulted ms "deduction_profile" standard.deductionProfile }

instance : Wire PayrollDefaults where
  encode p := .obj
    [("default_hourly_rate_krw", encode p.hourlyRate),
      ("multipliers", encode p.multipliers)]
  decode j := do
    let ms ← members? ["default_hourly_rate_krw", "multipliers"] 0 j
    let standard := PayrollDefaults.standard
    return {
      hourlyRate :=
        ← defaulted ms "default_hourly_rate_krw" standard.hourlyRate
      multipliers := ← defaulted ms "multipliers" standard.multipliers }

instance : Wire LeaveDefaults where
  encode l := .obj
    [("default_granted_days", encode l.grantedDays),
      ("annual_grant_days", encode l.annualGrantDays),
      ("carry_over_cap_days", encode l.carryOverCapDays)]
  decode j := do
    let ms ← members?
      ["default_granted_days", "annual_grant_days", "carry_over_cap_days"] 0 j
    let standard := LeaveDefaults.standard
    return {
      grantedDays := ← defaulted ms "default_granted_days" standard.grantedDays
      annualGrantDays :=
        ← defaulted ms "annual_grant_days" standard.annualGrantDays
      carryOverCapDays :=
        ← defaulted ms "carry_over_cap_days" standard.carryOverCapDays }

instance : Wire Config where
  encode c := .obj
    [("features", encode c.features), ("payroll", encode c.payroll),
      ("leave", encode c.leave)]
  decode j := do
    let ms ← members? ["features", "payroll", "leave"] 0 j
    let standard := Config.standard
    return {
      features := ← defaulted ms "features" standard.features
      payroll := ← defaulted ms "payroll" standard.payroll
      leave := ← defaulted ms "leave" standard.leave }

end Workforce.Wire
