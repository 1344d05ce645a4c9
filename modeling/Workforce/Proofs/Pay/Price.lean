import Workforce.Proofs.Attendance.Aggregate
import Workforce.Proofs.Pay.Gross

/-!
# The price of a period

All previews of pay, with deductions or without, price a period first.  This
module says once what that comes to:

* if the period, the rate, the factors and the employee pass their checks, it
  is the breakdown of the minutes of the approved records, or the overflow in
  the minutes or in it (`PriceChecks.pricePeriod_eq`);
* if one of them does not, it is a fault (`pricePeriod_of_not_checks`).

What else is known of a priced period is read off these two.
-/

namespace Workforce

open Service

/-! ## The terms of a price -/

/-- The rate by which an input is priced. -/
def Service.PreviewInput.rateBy (input : PreviewInput) (config : Config) :
    Int :=
  input.hourlyRate.getD config.payroll.hourlyRate

/-- The factors by which an input is priced. -/
def Service.PreviewInput.factorsBy (input : PreviewInput) (config : Config) :
    Multipliers :=
  input.multipliers.getD config.payroll.multipliers

/-- The minutes that are to be paid for an input. -/
def Store.payable (st : Store) (scope : TenantScope) (input : PreviewInput) :
    PayableMinutes :=
  st.paidMinutes scope input.employee input.period

/-- What the minutes for an input come to. -/
def Store.priceFor (st : Store) (config : Config) (scope : TenantScope)
    (input : PreviewInput) : Except Overflow GrossBreakdown := do
  let minutes ←
    totalMinutes (st.listApproved scope input.employee input.period)
  grossBreakdown minutes (input.rateBy config) (input.factorsBy config)

/-- The priced period that shows a breakdown. -/
def Store.pricedAt (st : Store) (config : Config) (scope : TenantScope)
    (input : PreviewInput) (breakdown : GrossBreakdown) : PricedPeriod :=
  { totals := st.payable scope input
    sourceRecordCount :=
      (st.listApproved scope input.employee input.period).length
    breakdown
    hourlyRate := input.rateBy config
    multipliers := input.factorsBy config }

/-- How a period is priced that has passed the checks. -/
def Store.price (st : Store) (config : Config) (scope : TenantScope)
    (input : PreviewInput) : Outcome PricedPeriod := do
  let records := st.listApproved scope input.employee input.period
  let totals ← Outcome.ofAmount (totalMinutes records)
  let breakdown ← Outcome.ofAmount
    (grossBreakdown totals (input.rateBy config) (input.factorsBy config))
  return {
    totals
    sourceRecordCount := records.length
    breakdown
    hourlyRate := input.rateBy config
    multipliers := input.factorsBy config }

/-- What is checked before a period is priced. -/
structure PriceChecks (config : Config) (st : Store) (scope : TenantScope)
    (input : PreviewInput) : Prop where
  period : input.period.start < input.period.finish
  rate : 0 < input.rateBy config
  factors : (input.factorsBy config).validate = .ok ()
  employee : ∀ id, input.employee = some id →
    ∃ e, requireEmployee st scope id = .ok e

section Price

variable {ctx : Context} {st : Store} {scope : TenantScope}
  {input : PreviewInput} {priced : PricedPeriod}

/-! ## What pricing comes to -/

/-- They come to the breakdown of what is to be paid, if the shifts can be
divided. -/
theorem priceFor_eq (st : Store) (config : Config) (scope : TenantScope)
    (input : PreviewInput) :
    st.priceFor config scope input =
      if st.Splittable scope input.employee input.period then
        grossBreakdown (st.payable scope input) (input.rateBy config)
          (input.factorsBy config)
      else .error .instant := by
  rw [Store.priceFor, totalMinutes_listApproved]
  split
  · rfl
  · rfl

theorem priceFor_eq_ok {config : Config} {b : GrossBreakdown} :
    st.priceFor config scope input = .ok b ↔
      st.Splittable scope input.employee input.period ∧
        grossBreakdown (st.payable scope input) (input.rateBy config)
          (input.factorsBy config) = .ok b := by
  rw [priceFor_eq]
  by_cases divided : st.Splittable scope input.employee input.period
  · simp [divided]
  · simp [divided]

theorem price_eq (st : Store) (config : Config) (scope : TenantScope)
    (input : PreviewInput) :
    st.price config scope input =
      (Outcome.ofAmount (st.priceFor config scope input)).map
        (st.pricedAt config scope input) := by
  rw [Store.price, Store.priceFor, totalMinutes_listApproved]
  by_cases divided : st.Splittable scope input.employee input.period
  · rw [if_pos divided]
    simp only [Outcome.ofAmount, bind, Except.bind]
    cases grossBreakdown (st.paidMinutes scope input.employee input.period)
        (input.rateBy config) (input.factorsBy config) with
    | error cause =>
        rfl
    | ok b =>
        rfl
  · rw [if_neg divided]
    rfl

/-- A period that passes the checks is priced by what its minutes come to. -/
theorem PriceChecks.pricePeriod_eq
    (checks : PriceChecks ctx.config st scope input) :
    pricePeriod ctx st scope input =
      (Outcome.ofAmount (st.priceFor ctx.config scope input)).map
        (st.pricedAt ctx.config scope input) := by
  have rate : 0 < input.hourlyRate.getD ctx.config.payroll.hourlyRate :=
    checks.rate
  have factors : (input.multipliers.getD
      ctx.config.payroll.multipliers).validate = .ok () :=
    checks.factors
  rw [← price_eq]
  simp only [pricePeriod, ensurePeriod, Outcome.ensure_of checks.period,
    Outcome.ensure_of rate, factors, Outcome.ok_bind, Store.price,
    Store.listApproved]
  cases asked : input.employee with
  | none =>
      rfl
  | some employee =>
      obtain ⟨e, found⟩ := checks.employee employee asked
      simp only [found, Outcome.ok_bind]
      rfl

/-- An employee who cannot be required is not found. -/
theorem requireEmployee_of_not_ok {id : String}
    (missing : ¬ ∃ e, requireEmployee st scope id = .ok e) :
    requireEmployee st scope id =
      Outcome.refuse (.notFound "employee not found") := by
  apply TenantScope.visible_of_hidden
  intro e found
  rw [← Bool.not_eq_true]
  intro visible
  exact missing ⟨e, TenantScope.visible_eq_ok.2 ⟨found, visible⟩⟩

/-- A period that does not pass them is refused. -/
theorem pricePeriod_of_not_checks
    (failed : ¬ PriceChecks ctx.config st scope input) :
    ∃ fault, pricePeriod ctx st scope input = Outcome.refuse fault := by
  by_cases period : input.period.start < input.period.finish
  swap
  · simp only [pricePeriod, ensurePeriod, Outcome.ensure_of_not period]
    exact ⟨_, rfl⟩
  by_cases rate : 0 < input.hourlyRate.getD ctx.config.payroll.hourlyRate
  swap
  · simp only [pricePeriod, ensurePeriod, Outcome.ensure_of period,
      Outcome.ensure_of_not rate, Outcome.ok_bind]
    exact ⟨_, rfl⟩
  by_cases factors : (input.multipliers.getD
      ctx.config.payroll.multipliers).arePositive = true
  swap
  · simp only [pricePeriod, ensurePeriod, Outcome.ensure_of period,
      Outcome.ensure_of rate, Multipliers.validate,
      Outcome.ensure_of_not factors, Outcome.ok_bind]
    exact ⟨_, rfl⟩
  -- Only the employee is left to fail.
  have unknown : ¬ ∀ id, input.employee = some id →
      ∃ e, requireEmployee st scope id = .ok e := by
    intro known
    exact failed ⟨period, rate, Outcome.ensure_of factors, known⟩
  rw [not_forall] at unknown
  obtain ⟨id, missing⟩ := unknown
  rw [Classical.not_imp] at missing
  obtain ⟨asked, missing⟩ := missing
  simp only [pricePeriod, ensurePeriod, Outcome.ensure_of period,
    Outcome.ensure_of rate, Multipliers.validate,
    Outcome.ensure_of factors, Outcome.ok_bind, asked,
    requireEmployee_of_not_ok missing]
  exact ⟨_, rfl⟩

/-- A period is priced exactly if it passes the checks and what its minutes
come to does not overflow. -/
theorem pricePeriod_eq_ok :
    pricePeriod ctx st scope input = .ok priced ↔
      PriceChecks ctx.config st scope input ∧
        ∃ b, st.priceFor ctx.config scope input = .ok b ∧
          priced = st.pricedAt ctx.config scope input b := by
  by_cases checks : PriceChecks ctx.config st scope input
  · rw [checks.pricePeriod_eq]
    cases st.priceFor ctx.config scope input with
    | error cause =>
        simp [Outcome.ofAmount, Except.map]
    | ok b =>
        simp [Outcome.ofAmount, Except.map, checks, eq_comm]
  · obtain ⟨fault, refused⟩ := pricePeriod_of_not_checks checks
    rw [refused]
    simp [Outcome.refuse, checks]

/-- A price overflows exactly if the checks pass and the minutes come to too
much. -/
theorem pricePeriod_overflow_iff {cause : Overflow} :
    pricePeriod ctx st scope input = .error (.overflow cause) ↔
      PriceChecks ctx.config st scope input ∧
        st.priceFor ctx.config scope input = .error cause := by
  by_cases checks : PriceChecks ctx.config st scope input
  · rw [checks.pricePeriod_eq]
    cases st.priceFor ctx.config scope input with
    | error cause' =>
        simp [Outcome.ofAmount, Except.map, checks]
    | ok b =>
        simp [Outcome.ofAmount, Except.map]
  · obtain ⟨fault, refused⟩ := pricePeriod_of_not_checks checks
    rw [refused]
    simp [Outcome.refuse, checks]

/-! ## What is known of a priced period -/

/-- A priced period has passed the checks. -/
theorem checks_of_pricePeriod
    (price : pricePeriod ctx st scope input = .ok priced) :
    PriceChecks ctx.config st scope input :=
  (pricePeriod_eq_ok.1 price).1

/-- A priced period comes to what its approved records come to. -/
theorem pricePeriod_totals
    (price : pricePeriod ctx st scope input = .ok priced) :
    priced.totals = st.paidMinutes scope input.employee input.period ∧
      priced.sourceRecordCount =
        (st.listApproved scope input.employee input.period).length := by
  obtain ⟨_, b, _, rfl⟩ := pricePeriod_eq_ok.1 price
  exact ⟨rfl, rfl⟩

/-- The gross pay of a priced period takes 64 bits. -/
theorem grossPay_of_pricePeriod
    (price : pricePeriod ctx st scope input = .ok priced) :
    minInt64 ≤ priced.breakdown.grossPay ∧
      priced.breakdown.grossPay ≤ maxInt64 := by
  obtain ⟨_, b, paid, rfl⟩ := pricePeriod_eq_ok.1 price
  exact grossPay_within (priceFor_eq_ok.1 paid).2

end Price

end Workforce
