import Workforce.Proofs.Pay.Deduction
import Workforce.Proofs.Pay.Limits
import Workforce.Proofs.Pay.PreviewTrail
import Workforce.Proofs.Pay.Run

/-!
# Previews that overflow

A preview prices the approved minutes of a period by decimals of 96 bits.  Of
the rate and the factors it is checked that they are above zero, of the minutes
nothing.  This module shows what becomes of a preview, with deductions or
without, whatever run was before:

* it overflows exactly if it is permitted, its input passes the checks and the
  minutes or their breakdown overflow; what is deducted never does, because the
  rates of the profiles that are kept are fractions (`Run.hasFractions`);
* it does not if every approved shift can be divided and the rate, the factors
  and the amounts are within a bound, and it does if a shift cannot, or one of
  these is above another, not much larger bound.

The factors of overtime on a holiday and of late night minutes are put together
also where no such minutes are paid.  So there are factors that pass the check
and by which nothing can be priced, not even no minutes at all.
-/

namespace Workforce

open Service

/-! ## Previews -/

/-- `Call.PreviewsFor input c`: a call previews what is to be paid for an input,
with deductions or without. -/
inductive Call.PreviewsFor (input : PreviewInput) : Call → Prop where
  | gross : PreviewsFor input (.previewPayroll input)
  | net (request : DeductionRequest) :
      PreviewsFor input (.previewPayrollWithDeductions input request)

/-- Whether a feature is off that a call needs. -/
def FeatureFlags.Blocks (f : FeatureFlags) : Call → Prop
  | .previewPayrollWithDeductions _ request => f.Withholds request
  | _ => False

section Preview

variable {ctx : Context} {st : Store} {actor : Actor} {scope : TenantScope}
  {input : PreviewInput} {cause : Overflow}

/-- The rates of the profiles that are kept are between zero and one. -/
theorem Run.hasFractions {past : List Step} (run : Run past st) {id : String}
    {p : DeductionProfile} (found : st.profiles.get? id = some p) :
    p.HasFractions := by
  have fractions : ∀ {rate : Option Decimal},
      rate.all Decimal.isFraction = true →
        ∀ r ∈ rate, 0 ≤ r.value ∧ r.value ≤ 1 := by
    rintro rate all r rfl
    exact Decimal.isFraction_iff.1 all
  obtain ⟨withholding, social⟩ := run.rates found
  exact ⟨fractions withholding, fractions social⟩

/-- So only the price of a net preview can overflow. -/
theorem previewNet_overflow_iff {past : List Step} (run : Run past st)
    {request : DeductionRequest} :
    previewNet ctx st actor scope input request =
        .error (.overflow cause) ↔
      pricePeriod ctx st scope input = .error (.overflow cause) := by
  rw [previewNet, Outcome.bind_eq_error]
  constructor
  · rintro (overflow | ⟨priced, price, later⟩)
    · exact overflow
    · obtain ⟨least, greatest⟩ := grossPay_of_pricePeriod price
      rcases Outcome.bind_eq_error.1 later with deducted | ⟨_, _, written⟩
      · refine absurd deducted
          (resolveDeductions_ne_overflow least greatest ?_ request cause)
        intro p given
        obtain ⟨kept, _⟩ := Option.filter_eq_some_iff.1 given
        obtain ⟨id, _, found⟩ := Option.bind_eq_some_iff.1 kept
        exact run.hasFractions found
      · cases written
  · exact .inl

/-- A sink that is out of order makes no overflow of a reply. -/
theorem Effect.reply_of_answered_overflow {α : Type} {e : Effect α}
    {sinks : Sinks}
    (overflow : e.answered sinks = .error (.overflow cause)) :
    e.reply = .error (.overflow cause) := by
  unfold answered at overflow
  split at overflow
  · rename_i n _
    rcases Outcome.bind_eq_error.1 overflow with undelivered | ⟨_, _, same⟩
    · unfold delivery at undelivered
      split at undelivered
      · cases undelivered
      · split at undelivered <;> cases undelivered
    · exact same
  · exact overflow

/-- What an operation does has a value or a fault for a reply. -/
def Outcome.Settled {α : Type} (operation : Outcome (Effect α)) : Prop :=
  ∀ e, operation = .ok e →
    (∃ a, e.reply = .ok a) ∨ ∃ fault, e.reply = Outcome.refuse fault

/-- Where an operation is settled, a call overflows exactly if its operation
does. -/
theorem perform_overflow_iff {α : Type} {c : Call}
    {operation : Outcome (Effect α)} {form : α → Reply} (sinks : Sinks)
    (comes : c.effect ctx st = Call.changing st operation form)
    (settled : operation.Settled) :
    (c.perform ctx sinks st).1 = .error (.overflow cause) ↔
      operation = .error (.overflow cause) := by
  rw [Call.perform, Effect.record_reply, comes]
  constructor
  · intro overflow
    have replied := Effect.reply_of_answered_overflow overflow
    cases operation with
    | error failure =>
        cases replied
        rfl
    | ok e =>
        have same : Except.map form e.reply = .error (.overflow cause) :=
          replied
        rcases settled e rfl with ⟨a, value⟩ | ⟨fault, refused⟩
        · rw [value] at same
          cases same
        · rw [refused] at same
          cases same
  · rintro rfl
    rfl

/-- `Call.ReachesPrice ctx actor scope c`: a preview is asked for by somebody
who may do so, with all features on that it needs. -/
structure Call.ReachesPrice (c : Call) (ctx : Context) (actor : Actor)
    (scope : TenantScope) : Prop where
  authorized : ctx.authorize = .ok (actor, scope)
  permitted : actor.may .runPreview = true
  on : ¬ ctx.config.features.Blocks c

theorem grossPreview_settled :
    (Service.previewPayroll ctx st input).Settled := by
  intro e done
  simp only [Service.previewPayroll, Outcome.bind_eq_ok,
    Outcome.pure_eq_ok] at done
  obtain ⟨_, _, _, _, _, _, rfl⟩ := done
  exact .inl ⟨_, rfl⟩

theorem netPreview_settled {request : DeductionRequest} :
    (Service.previewPayrollWithDeductions ctx st input request).Settled := by
  intro e done
  have passed := done
  simp only [Service.previewPayrollWithDeductions,
    Outcome.bind_eq_ok] at passed
  obtain ⟨⟨actor, scope⟩, authorized, _, passes, _⟩ := passed
  have ending := @netEnding ctx st actor scope input request authorized
    (Actor.require_eq_ok.1 passes)
  rw [done] at ending
  cases ending with
  | withheld off =>
      exact .inr ⟨_, rfl⟩
  | conflict on conflict details =>
      exact .inr ⟨_, rfl⟩
  | done on priced summary payload =>
      exact .inl ⟨_, rfl⟩

/-- A preview without deductions overflows exactly if its price does. -/
theorem grossPreview_overflow_iff (sinks : Sinks) :
    ((Call.previewPayroll input).perform ctx sinks st).1 =
        .error (.overflow cause) ↔
      ∃ actor scope, (Call.previewPayroll input).ReachesPrice ctx actor scope ∧
        pricePeriod ctx st scope input = .error (.overflow cause) := by
  rw [@perform_overflow_iff ctx st cause _ (.previewPayroll input)
    (Service.previewPayroll ctx st input) .preview sinks rfl
    grossPreview_settled]
  constructor
  · intro overflow
    simp only [Service.previewPayroll, Outcome.bind_eq_error] at overflow
    rcases overflow with unauthorized | ⟨⟨actor, scope⟩, authorized,
      forbidden | ⟨_, permitted, overflow | ⟨_, _, written⟩⟩⟩
    · exact absurd unauthorized (ctx.authorize_neverOverflows cause)
    · exact absurd forbidden (Outcome.neverOverflows_ensure _ cause)
    · exact ⟨actor, scope,
        ⟨authorized, Actor.require_eq_ok.1 permitted, id⟩, overflow⟩
    · cases written
  · rintro ⟨actor, scope, reaches, overflow⟩
    have passes : requirePreviewer actor = .ok () :=
      Actor.require_eq_ok.2 reaches.permitted
    simp only [Service.previewPayroll, reaches.authorized,
      Outcome.ok_bind, passes, overflow]
    rfl

/-- What a preview with deductions comes to where every feature that it needs
is on: the net pay, except that a conflict is told. -/
theorem netPreview_of_on {request : DeductionRequest}
    (authorized : ctx.authorize = .ok (actor, scope))
    (permitted : actor.may .runPreview = true)
    (on : ¬ ctx.config.features.Withholds request) :
    Service.previewPayrollWithDeductions ctx st input request =
      match previewNet ctx st actor scope input request with
      | .error (.refused fault) =>
        if fault.isConflict then
          .ok (refusedPreview ctx st actor scope .payrollPreviewConflict fault
            [("deductionMode", Wire.encode request.mode),
              ("profileId", Wire.encode request.profileId)])
        else
          Outcome.refuse fault
      | result => result := by
  have passes : requirePreviewer actor = .ok () :=
    Actor.require_eq_ok.2 permitted
  have deductions : ¬ (!ctx.config.features.payrollDeductions) = true := by
    intro off
    exact on (.inl (by simpa using off))
  have profiles : ¬ (request.mode == .profile &&
      !ctx.config.features.deductionProfile) = true := by
    intro off
    rw [Bool.and_eq_true, beq_iff_eq] at off
    exact on (.inr ⟨by simpa using off.2, off.1⟩)
  simp only [Service.previewPayrollWithDeductions, authorized,
    Outcome.ok_bind, passes, if_neg deductions, if_neg profiles]
  rfl

/-- A preview with deductions overflows exactly if its price does. -/
theorem netPreview_overflow_iff {past : List Step} (run : Run past st)
    (sinks : Sinks) {request : DeductionRequest} :
    ((Call.previewPayrollWithDeductions input request).perform ctx sinks
        st).1 = .error (.overflow cause) ↔
      ∃ actor scope, (Call.previewPayrollWithDeductions input
          request).ReachesPrice ctx actor scope ∧
        pricePeriod ctx st scope input = .error (.overflow cause) := by
  rw [@perform_overflow_iff ctx st cause _
    (.previewPayrollWithDeductions input request)
    (Service.previewPayrollWithDeductions ctx st input request) .preview
    sinks rfl netPreview_settled]
  constructor
  · intro overflow
    have passed := overflow
    simp only [Service.previewPayrollWithDeductions,
      Outcome.bind_eq_error] at passed
    rcases passed with unauthorized | ⟨⟨actor, scope⟩, authorized,
      forbidden | ⟨_, passes, _⟩⟩
    · exact absurd unauthorized (ctx.authorize_neverOverflows cause)
    · exact absurd forbidden (Outcome.neverOverflows_ensure _ cause)
    have permitted := Actor.require_eq_ok.1 passes
    have ending :=
      @netEnding ctx st actor scope input request authorized permitted
    rw [overflow] at ending
    cases ending with
    | failed on =>
        rw [netPreview_of_on authorized permitted on] at overflow
        refine ⟨actor, scope, ⟨authorized, permitted, on⟩, ?_⟩
        rw [← @previewNet_overflow_iff ctx st actor scope input cause past
          run request]
        split at overflow
        · split at overflow <;> cases overflow
        · exact overflow
  · rintro ⟨actor, scope, reaches, overflow⟩
    rw [netPreview_of_on reaches.authorized reaches.permitted reaches.on,
      (previewNet_overflow_iff run).2 overflow]

end Preview

/-! ## What overflows and what does not -/

/-- No number through which the minutes for an input are priced is above a
bound. -/
def Store.PricesWithin (st : Store) (bound : ℚ) (config : Config)
    (scope : TenantScope) (input : PreviewInput) : Prop :=
  PayWithin bound (st.payable scope input) (input.rateBy config)
    (input.factorsBy config)

/-- Previews after any run, with deductions or without.  One overflows exactly
if it is permitted, its input is accepted and its minutes or their breakdown
overflow; so no deductions ever do.  It has a value or a fault if every approved
shift can be divided and every number that pay is computed through is at most
`79 * 10 ^ 27`.  It overflows if a shift cannot be divided, and if one of the
numbers is above `8 * 10 ^ 28`, which no check of rate or factors rules out. -/
theorem previews_overflow_only_by_size {past : List Step} {st : Store}
    (run : Run past st) (ctx : Context) (sinks : Sinks)
    {input : PreviewInput} {c : Call} (previews : c.PreviewsFor input) :
    let reply := (c.perform ctx sinks st).1
    (∀ cause, reply = .error (.overflow cause) ↔
      ∃ actor scope, c.ReachesPrice ctx actor scope ∧
        PriceChecks ctx.config st scope input ∧
          st.priceFor ctx.config scope input = .error cause) ∧
    (∀ actor scope, ctx.authorize = .ok (actor, scope) →
      st.Splittable scope input.employee input.period →
      st.PricesWithin (79 * 10 ^ 27) ctx.config scope input →
        (∃ r, reply = .ok r) ∨ ∃ fault, reply = Outcome.refuse fault) ∧
    (∀ actor scope, c.ReachesPrice ctx actor scope →
      PriceChecks ctx.config st scope input →
        (¬ st.Splittable scope input.employee input.period →
          reply = .error (.overflow .instant)) ∧
        (¬ st.PricesWithin (8 * 10 ^ 28) ctx.config scope input →
          ∃ cause, reply = .error (.overflow cause))) := by
  intro reply
  have exact : ∀ cause, reply = .error (.overflow cause) ↔
      ∃ actor scope, c.ReachesPrice ctx actor scope ∧
        PriceChecks ctx.config st scope input ∧
          st.priceFor ctx.config scope input = .error cause := by
    intro cause
    simp only [← pricePeriod_overflow_iff]
    cases previews with
    | gross =>
        exact grossPreview_overflow_iff sinks
    | net request =>
        exact netPreview_overflow_iff run sinks
  refine ⟨exact, ?_, ?_⟩
  · intro actor scope authorized divided enough
    cases replied : reply with
    | ok r =>
        exact .inl ⟨r, rfl⟩
    | error failure =>
        cases failure with
        | refused fault =>
            exact .inr ⟨fault, rfl⟩
        | overflow cause =>
            obtain ⟨_, _, reaches, checks, overflow⟩ :=
              (exact cause).1 replied
            have same := reaches.authorized
            rw [authorized] at same
            cases same
            obtain ⟨b, priced⟩ := grossBreakdown_of_within
              (st.paidMinutes_nonnegative _ _ _) checks.rate checks.factors
              enough
            rw [priceFor_eq_ok.2 ⟨divided, priced⟩] at overflow
            cases overflow
  · intro actor scope reaches checks
    refine ⟨?_, ?_⟩
    · intro beyond
      have price : st.priceFor ctx.config scope input = .error .instant :=
        (priceFor_eq _ _ _ _).trans (if_neg beyond)
      exact (exact .instant).2 ⟨actor, scope, reaches, checks, price⟩
    · intro large
      cases price : st.priceFor ctx.config scope input with
      | ok b =>
          exact absurd (payWithin_of_grossBreakdown
            (st.paidMinutes_nonnegative _ _ _) checks.rate checks.factors
            (priceFor_eq_ok.1 price).2) large
      | error cause =>
          exact ⟨cause, (exact cause).2 ⟨actor, scope, reaches, checks, price⟩⟩

/-- The first hours of 1970, priced by these factors. -/
def hugeHours : PreviewInput :=
  { firstHours with multipliers := some hugeFactors }

/-- With the terms of the configuration two approved shifts are priced, and
with these factors the price overflows. -/
theorem previews_of_hugeHours :
    Run [approvingOpen, approvingHour, clockingOpen, clockingHour, hiring]
      approvingOpen.after ∧
    ((∃ r, ((Call.previewPayroll firstHours).perform approvingOpen.ctx
        .working approvingOpen.after).1 = .ok r) ∨
      ∃ fault, ((Call.previewPayroll firstHours).perform approvingOpen.ctx
        .working approvingOpen.after).1 = Outcome.refuse fault) ∧
    ∃ cause, ((Call.previewPayroll hugeHours).perform approvingOpen.ctx
      .working approvingOpen.after).1 = .error (.overflow cause) := by
  obtain ⟨_, enough, _⟩ := previews_overflow_only_by_size run_approvingOpen
    approvingOpen.ctx .working (.gross : Call.PreviewsFor firstHours _)
  obtain ⟨_, _, large⟩ := previews_overflow_only_by_size run_approvingOpen
    approvingOpen.ctx .working (.gross : Call.PreviewsFor hugeHours _)
  have hour : approvingOpen.after.payable .everything firstHours =
      ⟨0, 0, 0, 60⟩ := by
    decide +kernel
  have divided : approvingOpen.after.Splittable .everything firstHours.employee
      firstHours.period := by
    decide +kernel
  refine ⟨run_approvingOpen, ?_, ?_⟩
  · refine enough _ .everything rfl divided ?_
    rw [Store.PricesWithin, hour]
    constructor <;> decide +kernel
  · refine (large { id := "adm-001", role := .admin, organization := none }
      .everything ⟨rfl, rfl, id⟩ ⟨by decide, by decide, rfl, nofun⟩).2 ?_
    intro within
    have product := within.holidayOvertime
    revert product
    decide +kernel

/-- No minutes are paid by these factors, in a store with nothing in it, and the
price overflows still: all that is checked of the factors is that they are above
zero. -/
theorem preview_of_nothing_overflows :
    Reachable Store.empty ∧ Config.standard.validate = .ok () ∧
      hugeFactors.validate = .ok () ∧
      Store.empty.payable .everything hugeHours = PayableMinutes.zero ∧
      ((Call.previewPayroll hugeHours).perform hiring.ctx .working
        Store.empty).1 = .error (.overflow .multiplication) :=
  ⟨⟨[], .start⟩, rfl, rfl, rfl, rfl⟩

end Workforce
