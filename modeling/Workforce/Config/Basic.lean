import Workforce.Fault
import Workforce.Pay.Gross
import Workforce.Text.Blank

/-!
What can be configured: which features are on, and the terms of pay and leave
that hold where a call does not give its own.
-/

namespace Workforce

/-- Which features are on. -/
structure FeatureFlags where
  tenancy : Bool
  payrollDeductions : Bool
  deductionProfile : Bool
deriving DecidableEq, Repr

/-- Terms of pay for previews that do not give their own. -/
structure PayrollDefaults where
  hourlyRate : Int
  multipliers : Multipliers
deriving DecidableEq, Repr

/-- The days granted to a new ledger, and the terms of settlements that do not
give their own. -/
structure LeaveDefaults where
  grantedDays : Int
  annualGrantDays : Int
  carryOverCapDays : Int
deriving DecidableEq, Repr

/-- The whole configuration. -/
structure Config where
  features : FeatureFlags
  payroll : PayrollDefaults
  leave : LeaveDefaults
deriving DecidableEq, Repr

namespace FeatureFlags

/-- No feature. -/
def allOff : FeatureFlags := ⟨false, false, false⟩

/-- Every feature. -/
def allOn : FeatureFlags := ⟨true, true, true⟩

/-! ## Overrides -/

/-- Whether a text switches a feature on: `1`, `true`, `yes` or `on`, in any
mixture of ASCII cases and between any blanks. -/
def isTruthy (s : String) : Bool :=
  let word := (Text.trimChars s.toList).map Char.toLower
  ["1", "true", "yes", "on"].any fun truthy => truthy.toList == word

/-- A flag, unless a text takes its place. -/
def override (flag : Bool) (text : Option String) : Bool :=
  match text with
  | some s => isTruthy s
  | none => flag

/-- The flags with the texts that an environment has for them. -/
def withOverrides (f : FeatureFlags) (environment : String → Option String) :
    FeatureFlags :=
  { tenancy := override f.tenancy (environment "TIMEPAY_TENANCY")
    payrollDeductions :=
      override f.payrollDeductions (environment "TIMEPAY_PAYROLL_DEDUCTIONS")
    deductionProfile :=
      override f.deductionProfile (environment "TIMEPAY_DEDUCTION_PROFILE") }

end FeatureFlags

/-- Ten thousand won an hour, with the standard factors. -/
def PayrollDefaults.standard : PayrollDefaults :=
  ⟨10000, Multipliers.standard⟩

/-- Fifteen days granted, of which five can be carried over. -/
def LeaveDefaults.standard : LeaveDefaults := ⟨15, 15, 5⟩

namespace Config

/-- The standard terms, with no feature on. -/
def standard : Config :=
  ⟨FeatureFlags.allOff, PayrollDefaults.standard, LeaveDefaults.standard⟩

/-- Passes a configuration that calls can rely on. -/
def validate (c : Config) : Outcome Unit := do
  Outcome.ensure (0 < c.payroll.hourlyRate)
    (.validation "default_hourly_rate_krw must be positive")
  c.payroll.multipliers.validate
  Outcome.ensure (0 ≤ c.leave.grantedDays)
    (.validation "default_granted_days must be non-negative")
  Outcome.ensure (0 < c.leave.annualGrantDays)
    (.validation "annual_grant_days must be positive")
  Outcome.ensure (0 ≤ c.leave.carryOverCapDays)
    (.validation "carry_over_cap_days must be non-negative")

end Config
end Workforce
