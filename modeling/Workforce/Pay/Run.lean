import Workforce.Pay.Deduction
import Workforce.Pay.Gross

/-!
Payroll runs: the pay of a period, previewed and then confirmed for good.
-/

namespace Workforce

/-- Where a run stands. A confirmed run stays as it is. -/
inductive PayrollState where
  | previewed
  | confirmed
deriving DecidableEq, Repr

instance : Named PayrollState where
  all := [.previewed, .confirmed]
  name
    | .previewed => "PREVIEWED"
    | .confirmed => "CONFIRMED"

/-- The pay of a period, for one employee or for all within a scope. -/
structure PayrollRun where
  id : String
  organization : Option String
  employee : Option String
  periodStart : ZonedTime
  periodEnd : ZonedTime
  state : PayrollState
  totals : PayableMinutes
  grossPay : Int
  deductions : Option DeductionSummary
  netPay : Option Int
  sourceRecordCount : Nat
  confirmedAt : Option Instant
  confirmedBy : Option String
  createdAt : Instant
  updatedAt : Instant

instance : Owned PayrollRun := ⟨PayrollRun.organization⟩

/-- A run with the terms on which it was priced. -/
structure PayrollPreview where
  run : PayrollRun
  breakdown : GrossBreakdown
  hourlyRate : Int
  multipliers : Multipliers

end Workforce
