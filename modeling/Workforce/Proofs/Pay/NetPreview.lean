import Workforce.Proofs.Pay.Price
import Workforce.Proofs.Pay.Profile

/-!
# Net pay by a profile

A preview of net pay that names a profile expects it in a certain version.
This module shows what that guards against: after any run the preview goes
through only if the profile was written exactly so many times, and then the
amounts are those of the latest writing.  What can stand in the way, besides
the checks that all previews have in common, is `profileFault?`.

The shares of gross pay are never too large to be held: rates are between zero
and one, and gross pay takes 64 bits.
-/

namespace Workforce

open Service
open Outcome (bind_eq_ok ensure_eq_ok ensure_of ensure_of_not pure_eq_ok)

/-! ## Shares of gross pay -/

/-- A share at a rate between zero and one can be held. -/
theorem rateShare_of_fraction {gross : Int} {rate : Decimal}
    (least : minInt64 ≤ gross) (greatest : gross ≤ maxInt64)
    (fraction : rate.isFraction = true) :
    ∃ share, rateShare gross rate = .ok share := by
  have small : gross.natAbs < Decimal.limit := by
    unfold minInt64 at least
    unfold maxInt64 at greatest
    unfold Decimal.limit
    omega
  obtain ⟨amount, made⟩ : ∃ d, Decimal.ofInt gross = .ok d := by
    refine Decimal.fit_of_small (lt_of_le_of_lt ?_ small)
    exact roundHalfEven_le (tenTo_pos 0) (Nat.le_of_eq (Nat.mul_one _).symm)
  obtain ⟨coefficient, whole⟩ := Decimal.ofInt_eq_ok made
  obtain ⟨product, multiplied⟩ : ∃ d, amount.mul rate = .ok d := by
    unfold Decimal.mul
    split
    · exact ⟨_, rfl⟩
    · split
      · exact ⟨_, rfl⟩
      · rw [coefficient, whole, Nat.zero_add]
        refine Decimal.fit_of_small (lt_of_le_of_lt ?_ small)
        refine roundHalfEven_le (tenTo_pos _) ?_
        rw [Int.natAbs_mul]
        refine Nat.mul_le_mul_left _ ?_
        simp only [Decimal.isFraction, Bool.and_eq_true,
          decide_eq_true_eq] at fraction
        omega
  refine ⟨roundWon product, ?_⟩
  simp only [rateShare, Overflow.bind_eq_ok]
  exact ⟨amount, made, product, multiplied, rfl⟩

/-! ## The guard -/

/-- What stands in the way of a profile: it has not the expected version, is
not active or is not meant for this use. -/
def DeductionProfile.fault? (p : DeductionProfile) (expectedVersion : Int) :
    Option Fault :=
  if p.version ≠ expectedVersion then
    some (.conflict "deduction profile version mismatch")
  else if p.active = false then
    some (.conflict "deduction profile is inactive")
  else if p.mode ≠ .profile then
    some (.conflict "deduction profile mode is not profile")
  else
    none

/-- What stands in the way of net pay by a profile, which may also be missing
or not within the scope. -/
def profileFault? (scope : TenantScope) (profile : Option DeductionProfile)
    (expectedVersion : Int) : Option Fault :=
  match profile.filter fun p => scope.permits p.organization with
  | none => some (.notFound "deduction profile not found")
  | some p => p.fault? expectedVersion

/-- Deductions that were derived from gross pay by the terms of a profile in
some version. -/
structure DeductionSummary.PricedBy (s : DeductionSummary) (grossPay : Int)
    (id : String) (version : Int) (terms : ProfileInput) : Prop where
  mode : s.mode = .profile
  id : s.profileId = some id
  version : s.profileVersion = some version
  withholding :
    rateShare grossPay (terms.withholdingRate.getD Decimal.zero) =
      .ok s.withholdingTax
  social :
    rateShare grossPay (terms.socialInsuranceRate.getD Decimal.zero) =
      .ok s.socialInsurance
  other : s.other = terms.fixedOther
  total :
    s.total = totalDeductions s.withholdingTax s.socialInsurance s.other

/-- What a profile was last written with. -/
def DeductionProfile.terms (p : DeductionProfile) : ProfileInput :=
  { name := p.name
    mode := p.mode
    withholdingRate := p.withholdingRate
    socialInsuranceRate := p.socialInsuranceRate
    fixedOther := p.fixedOther
    active := p.active }

namespace DeductionProfile

variable {p : DeductionProfile} {grossPay expectedVersion : Int}

theorem fault?_eq_none :
    p.fault? expectedVersion = none ↔
      p.version = expectedVersion ∧ p.active = true ∧ p.mode = .profile := by
  unfold fault?
  split
  · rename_i mismatch
    simp [mismatch]
  · rename_i current
    split
    · rename_i inactive
      simp [inactive]
    · rename_i active
      split
      · rename_i otherMode
        simp [otherMode]
      · rename_i mode
        simp [not_not.1 current, not_not.1 mode, active]

/-- What stands in the way of a profile is what its resolution ends in. -/
theorem resolve_of_fault {fault : Fault}
    (barred : p.fault? expectedVersion = some fault) :
    p.resolve grossPay expectedVersion = Outcome.refuse fault := by
  unfold fault? at barred
  unfold resolve
  split at barred
  · rename_i mismatch
    cases barred
    rw [ensure_of_not mismatch]
    rfl
  · rename_i current
    rw [ensure_of (not_not.1 current), Outcome.ok_bind]
    split at barred
    · rename_i inactive
      cases barred
      rw [ensure_of_not (by simp [inactive])]
      rfl
    · rename_i active
      rw [ensure_of (by simpa using active), Outcome.ok_bind]
      split at barred
      · rename_i otherMode
        cases barred
        rw [ensure_of_not otherMode]
        rfl
      · cases barred

/-- A resolution that goes through is by the terms of the profile. -/
theorem resolve_eq_ok {s : DeductionSummary}
    (resolved : p.resolve grossPay expectedVersion = .ok s) :
    s.PricedBy grossPay p.id p.version p.terms := by
  simp only [resolve, bind_eq_ok, Outcome.ofAmount_eq_ok,
    pure_eq_ok] at resolved
  obtain ⟨_, _, _, _, _, _, withholding, taxed, social, insured, rfl⟩ :=
    resolved
  exact ⟨rfl, rfl, rfl, taxed, insured, rfl, rfl⟩

/-- A missing rate is zero, which is a fraction as well. -/
theorem isFraction_getD {rate : Option Decimal}
    (fraction : rate.all Decimal.isFraction = true) :
    (rate.getD Decimal.zero).isFraction = true := by
  cases rate with
  | none =>
      decide
  | some r =>
      exact fraction

/-- A resolution goes through if nothing stands in the way of the profile: its
rates are between zero and one. -/
theorem resolve_of_no_fault (free : p.fault? expectedVersion = none)
    (least : minInt64 ≤ grossPay) (greatest : grossPay ≤ maxInt64)
    (withholding : p.withholdingRate.all Decimal.isFraction = true)
    (social : p.socialInsuranceRate.all Decimal.isFraction = true) :
    ∃ s, p.resolve grossPay expectedVersion = .ok s := by
  obtain ⟨version, active, mode⟩ := fault?_eq_none.1 free
  obtain ⟨tax, taxed⟩ :=
    rateShare_of_fraction least greatest (isFraction_getD withholding)
  obtain ⟨insurance, insured⟩ :=
    rateShare_of_fraction least greatest (isFraction_getD social)
  simp only [resolve, ensure_of version, ensure_of active, ensure_of mode,
    Outcome.ok_bind, taxed, insured, Outcome.ofAmount]
  exact ⟨_, rfl⟩

end DeductionProfile

/-- The deductions of a preview by a profile. -/
def profileDeductions (st : Store) (scope : TenantScope) (id : String)
    (expectedVersion grossPay : Int) : Outcome DeductionSummary :=
  resolveDeductions grossPay (.profile id expectedVersion)
    (((DeductionRequest.profile id expectedVersion).profileId.bind
      st.profiles.get?).filter fun p => scope.permits p.organization)

section Guard

variable {st : Store} {scope : TenantScope} {id : String}
  {expectedVersion grossPay : Int}

/-- The profile that a request names is the one kept under the id, if that is
within the scope. -/
theorem profileDeductions_eq :
    profileDeductions st scope id expectedVersion grossPay =
      (do
        let p ← Outcome.demand
          ((st.profiles.get? id).filter fun p =>
            scope.permits p.organization)
          (.notFound "deduction profile not found")
        p.resolve grossPay expectedVersion) := by
  simp only [profileDeductions, resolveDeductions,
    DeductionRequest.profileId, Option.bind_some]
  cases seen : (st.profiles.get? id).filter fun p =>
      scope.permits p.organization with
  | none =>
      rfl
  | some p =>
      have kept := (Option.filter_eq_some_iff.1 seen).1
      have key : p.id = id := Table.key_of_get? kept
      simp [Option.filter, key]

/-- What stands in the way is what a preview ends in. -/
theorem profileDeductions_of_fault {fault : Fault}
    (barred : profileFault? scope (st.profiles.get? id) expectedVersion =
      some fault) :
    profileDeductions st scope id expectedVersion grossPay =
      Outcome.refuse fault := by
  rw [profileDeductions_eq]
  unfold profileFault? at barred
  cases seen : (st.profiles.get? id).filter fun p =>
      scope.permits p.organization with
  | none =>
      rw [seen] at barred
      cases barred
      rfl
  | some p =>
      rw [seen] at barred
      exact DeductionProfile.resolve_of_fault barred

/-- Where nothing stands in the way there is a profile within the scope that is
resolved. -/
theorem profileDeductions_of_no_fault
    (free : profileFault? scope (st.profiles.get? id) expectedVersion =
      none) :
    ∃ p, st.profiles.get? id = some p ∧
      scope.permits p.organization = true ∧
        p.fault? expectedVersion = none ∧
          profileDeductions st scope id expectedVersion grossPay =
            p.resolve grossPay expectedVersion := by
  rw [profileDeductions_eq]
  unfold profileFault? at free
  cases seen : (st.profiles.get? id).filter fun p =>
      scope.permits p.organization with
  | none =>
      rw [seen] at free
      cases free
  | some p =>
      rw [seen] at free
      obtain ⟨kept, visible⟩ := Option.filter_eq_some_iff.1 seen
      exact ⟨p, kept, visible, free, rfl⟩

end Guard

/-! ## Checks that all previews have in common -/

/-- An actor who may preview net pay by profiles, and an input that is accepted
apart from the profile it names. -/
structure PreviewChecks (ctx : Context) (st : Store) (actor : Actor)
    (scope : TenantScope) (input : PreviewInput) : Prop where
  authorized : ctx.authorize = .ok (actor, scope)
  permitted : actor.may .runPreview = true
  deductions : ctx.config.features.payrollDeductions = true
  profiles : ctx.config.features.deductionProfile = true
  period : ensurePeriod input.period = .ok ()
  rate : 0 < input.hourlyRate.getD ctx.config.payroll.hourlyRate
  multipliers : (input.multipliers.getD
    ctx.config.payroll.multipliers).validate = .ok ()
  employee : ∀ id, input.employee = some id →
    ∃ e, requireEmployee st scope id = .ok e

section Preview

variable {ctx : Context} {st : Store} {actor : Actor} {scope : TenantScope}
  {input : PreviewInput} {id : String} {expectedVersion : Int}

/-- Among the checks are those of a price. -/
theorem PreviewChecks.price
    (checks : PreviewChecks ctx st actor scope input) :
    PriceChecks ctx.config st scope input where
  period := ensurePeriod_eq_ok.1 checks.period
  rate := checks.rate
  factors := checks.multipliers
  employee := checks.employee

/-- A period is priced if the checks pass, unless an amount overflows. -/
theorem pricePeriod_of_checks
    (checks : PreviewChecks ctx st actor scope input) :
    (∃ priced, pricePeriod ctx st scope input = .ok priced) ∨
      ∃ cause, pricePeriod ctx st scope input =
        .error (.overflow cause) := by
  rw [checks.price.pricePeriod_eq]
  cases st.priceFor ctx.config scope input with
  | error cause =>
      exact .inr ⟨cause, rfl⟩
  | ok b =>
      exact .inl ⟨st.pricedAt ctx.config scope input b, rfl⟩

/-- If the checks pass, a preview by a profile is what the resolution comes to,
and a conflict is told. -/
theorem preview_of_checks (checks : PreviewChecks ctx st actor scope input) :
    previewPayrollWithDeductions ctx st input (.profile id expectedVersion) =
      match previewNet ctx st actor scope input
          (.profile id expectedVersion) with
      | .error (.refused fault) =>
        if fault.isConflict then
          .ok (refusedPreview ctx st actor scope .payrollPreviewConflict fault
            [("deductionMode", Wire.encode DeductionMode.profile),
              ("profileId", Wire.encode (some id))])
        else
          Outcome.refuse fault
      | result => result := by
  have permitted : requirePreviewer actor = .ok () :=
    Actor.require_eq_ok.2 checks.permitted
  simp only [previewPayrollWithDeductions, checks.authorized,
    Outcome.ok_bind, permitted, checks.deductions, checks.profiles]
  rfl

/-- A preview of net pay by a profile that is expected in some version. -/
def netPreview (input : PreviewInput) (id : String)
    (expectedVersion : Int) : Call :=
  .previewPayrollWithDeductions input (.profile id expectedVersion)

/-- An overflow while the period is priced is all that comes of a preview. -/
theorem perform_of_overflow {cause : Overflow} (sinks : Sinks)
    (checks : PreviewChecks ctx st actor scope input)
    (overflow : pricePeriod ctx st scope input = .error (.overflow cause)) :
    (netPreview input id expectedVersion).perform ctx sinks st =
      (.error (.overflow cause), st) := by
  have priced : previewNet ctx st actor scope input
      (.profile id expectedVersion) = .error (.overflow cause) := by
    rw [previewNet, overflow]
    rfl
  have passed := @preview_of_checks _ _ _ _ _ id expectedVersion checks
  rw [priced] at passed
  rw [netPreview, Call.perform, Call.effect, passed]
  rfl

/-- A refusal that is entered in the audit log, but is no event, is answered
as it is unless the audit log is out of order. -/
theorem answered_of_refused {n : Notice} (fault : Fault)
    (silent : n.event = none) (sinks : Sinks) :
    (Effect.refused st n fault : Effect Reply).answered sinks =
        Outcome.refuse fault ∨
      ∃ message, sinks.audit = some message ∧
        (Effect.refused st n fault : Effect Reply).answered sinks =
          Outcome.refuse (.storage message) := by
  simp only [Effect.answered, Effect.refused, Effect.delivery, silent]
  cases sinks.audit with
  | none =>
      exact .inl rfl
  | some message =>
      exact .inr ⟨message, rfl, rfl⟩

/-- A refusal for what stands in the way keeps all runs as they are. -/
theorem perform_of_fault {fault : Fault} {priced : PricedPeriod}
    (sinks : Sinks) (checks : PreviewChecks ctx st actor scope input)
    (price : pricePeriod ctx st scope input = .ok priced)
    (barred : profileFault? scope (st.profiles.get? id) expectedVersion =
      some fault) :
    ((netPreview input id expectedVersion).perform ctx sinks st).2.payroll =
        st.payroll ∧
      (((netPreview input id expectedVersion).perform ctx sinks st).1 =
          Outcome.refuse fault ∨
        fault.isConflict = true ∧ ∃ message, sinks.audit = some message ∧
          ((netPreview input id expectedVersion).perform ctx sinks st).1 =
            Outcome.refuse (.storage message)) := by
  have refused : previewNet ctx st actor scope input
      (.profile id expectedVersion) = Outcome.refuse fault := by
    have ended := @profileDeductions_of_fault _ _ _ _
      priced.breakdown.grossPay _ barred
    unfold profileDeductions at ended
    simp only [previewNet, price, Outcome.ok_bind, ended]
    rfl
  have passed := @preview_of_checks _ _ _ _ _ id expectedVersion checks
  rw [refused] at passed
  simp only [Outcome.refuse] at passed
  rw [netPreview, Call.perform, Effect.record_reply, Effect.record_store,
    Call.effect, passed]
  cases conflict : fault.isConflict with
  | false =>
      exact ⟨rfl, .inl rfl⟩
  | true =>
      refine ⟨rfl, ?_⟩
      refine Or.imp (fun same => same) (fun broken => ⟨rfl, broken⟩)
        (answered_of_refused fault ?_ sinks)
      rfl

/-- A preview that nothing stands in the way of succeeds with both sinks in
order. -/
theorem perform_of_no_fault {priced : PricedPeriod}
    {summary : DeductionSummary}
    (checks : PreviewChecks ctx st actor scope input)
    (price : pricePeriod ctx st scope input = .ok priced)
    (resolved : profileDeductions st scope id expectedVersion
      priced.breakdown.grossPay = .ok summary) :
    ((netPreview input id expectedVersion).perform ctx .working
      st).1.isOk = true := by
  obtain ⟨e, done⟩ : ∃ e, previewNet ctx st actor scope input
      (.profile id expectedVersion) = .ok e := by
    unfold profileDeductions at resolved
    simp only [previewNet, price, Outcome.ok_bind, resolved]
    exact ⟨_, rfl⟩
  obtain ⟨_, _, _, _, _, rfl⟩ := Call.previewNet_eq_ok done
  have passed := @preview_of_checks _ _ _ _ _ id expectedVersion checks
  rw [done] at passed
  rw [netPreview, Call.perform, Effect.record_reply,
    Effect.answered_of_working, Call.effect, passed]
  rfl

/-- What a preview that goes through has done. -/
theorem succeeded_preview {sinks : Sinks} {reply : Reply}
    (succeeded : ((netPreview input id expectedVersion).perform ctx sinks
      st).1 = .ok reply) :
    ∃ actor scope priced summary,
      ctx.authorize = .ok (actor, scope) ∧
        profileDeductions st scope id expectedVersion
          priced.breakdown.grossPay = .ok summary ∧
          ((netPreview input id expectedVersion).perform ctx sinks
            st).2.payroll.get? (ctx.fresh .run) =
              some (Call.netRun ctx scope input priced summary) := by
  have comes := Call.effect_comes ctx st (netPreview input id expectedVersion)
  have answered := Effect.record_reply
    ((netPreview input id expectedVersion).effect ctx st) sinks
  rw [Call.perform] at succeeded
  rw [succeeded] at answered
  rw [Call.perform, Effect.record_store]
  generalize (netPreview input id expectedVersion).effect ctx st = e
    at comes answered
  cases comes with
  | failed failure =>
      cases answered
  | looked reply only =>
      cases only
  | warned authorized call conflict silent =>
      obtain ⟨told, refused⟩ :=
        @Effect.answered_of_error Reply (.refused st _ _) _ rfl sinks
      rw [refused] at answered
      cases answered
  | halted authorized call does beyond =>
      cases call
  | done authorized does =>
      cases does with
      | previewPayrollWithDeductions permitted enabled profiles price
          resolved =>
          exact ⟨_, _, _, _, authorized, resolved,
            Table.get?_put_self st.payroll _⟩

end Preview

/-! ## After any run -/

/-- What a preview that goes through shows of the upserts of its profile: the
expected version is their number, the profile is visible to the caller, active
and meant for this use, and the run that is stored has the amounts that the
latest of them gives. -/
structure WentThrough (ctx : Context) (after : Store) (p : String)
    (expectedVersion : Int) (latest : ProfileWriting)
    (earlier : List ProfileWriting) : Prop where
  version : expectedVersion = (latest :: earlier).length
  visible : ∃ actor scope, ctx.authorize = .ok (actor, scope) ∧
    scope.permits (earlier.getLastD latest).organization = true
  active : latest.input.active = true
  mode : latest.input.mode = .profile
  run : ∃ run summary, after.payroll.get? (ctx.fresh .run) = some run ∧
    run.deductions = some summary ∧
      run.netPay = some (summary.netPay run.grossPay) ∧
        summary.PricedBy run.grossPay p expectedVersion latest.input

/-- How a preview ends that passes its other checks: with an overflow while
the period is priced, or with what stands in the way of the profile, and then
no run is stored; or else it succeeds.  If the audit log is out of order, this
is what a caller is told instead of a conflict. -/
def EndsByProfile (ctx : Context) (sinks : Sinks) (st : Store)
    (scope : TenantScope) (input : PreviewInput) (p : String)
    (expectedVersion : Int) (profile : Option DeductionProfile) : Prop :=
  let ended := (netPreview input p expectedVersion).perform ctx sinks st
  (∃ cause, pricePeriod ctx st scope input = .error (.overflow cause) ∧
      ended = (.error (.overflow cause), st)) ∨
    match profileFault? scope profile expectedVersion with
    | some fault =>
      ended.2.payroll = st.payroll ∧
        (ended.1 = Outcome.refuse fault ∨
          fault.isConflict = true ∧ ∃ message, sinks.audit = some message ∧
            ended.1 = Outcome.refuse (.storage message))
    | none => sinks = .working → ended.1.isOk = true

/-- A preview that goes through was priced by the latest upsert. -/
theorem Run.wentThrough {past : List Step} {st : Store} {p : String}
    (run : Run past st) {ctx : Context} {sinks : Sinks}
    {input : PreviewInput} {expectedVersion : Int} {reply : Reply}
    (succeeded : ((netPreview input p expectedVersion).perform ctx sinks
      st).1 = .ok reply) :
    ∃ latest earlier, writings p past = latest :: earlier ∧
      WentThrough ctx
        ((netPreview input p expectedVersion).perform ctx sinks st).2 p
        expectedVersion latest earlier := by
  obtain ⟨actor, scope, priced, summary, authorized, resolved, stored⟩ :=
    succeeded_preview succeeded
  have free : profileFault? scope (st.profiles.get? p) expectedVersion =
      none := by
    cases barred :
        profileFault? scope (st.profiles.get? p) expectedVersion with
    | none =>
        rfl
    | some fault =>
        rw [profileDeductions_of_fault barred] at resolved
        cases resolved
  obtain ⟨profile, found, visible, unbarred, same⟩ :=
    profileDeductions_of_no_fault free
  obtain ⟨version, active, mode⟩ := DeductionProfile.fault?_eq_none.1 unbarred
  rw [same] at resolved
  have priced := DeductionProfile.resolve_eq_ok resolved
  have key : profile.id = p := Table.key_of_get? found
  rw [key, version] at priced
  rw [run.profile p] at found
  cases written : writings p past with
  | nil =>
      rw [written] at found
      cases found
  | cons latest earlier =>
      rw [written] at found
      cases found
      exact ⟨latest, earlier, rfl, version.symm,
        ⟨actor, scope, authorized, visible⟩, active, mode,
        _, summary, stored, rfl, rfl,
        ⟨priced.mode, priced.id, priced.version, priced.withholding,
          priced.social, priced.other, priced.total⟩⟩

/-- A preview that passes its other checks ends by the profile. -/
theorem Run.endsByProfile {past : List Step} {st : Store} (run : Run past st)
    (p : String) {ctx : Context} (sinks : Sinks) {actor : Actor}
    {scope : TenantScope} {input : PreviewInput} (expectedVersion : Int)
    (checks : PreviewChecks ctx st actor scope input) :
    EndsByProfile ctx sinks st scope input p expectedVersion
      (profileOf p (writings p past)) := by
  rcases pricePeriod_of_checks checks with ⟨priced, price⟩ | ⟨cause, overflow⟩
  · right
    have kept := run.profile p
    rw [← kept]
    cases barred :
        profileFault? scope (st.profiles.get? p) expectedVersion with
    | some fault =>
        exact perform_of_fault sinks checks price barred
    | none =>
        rintro rfl
        obtain ⟨profile, found, _, unbarred, same⟩ :=
          profileDeductions_of_no_fault barred
        obtain ⟨least, greatest⟩ := grossPay_of_pricePeriod price
        obtain ⟨withholding, social⟩ := run.rates found
        obtain ⟨summary, resolved⟩ := DeductionProfile.resolve_of_no_fault
          unbarred least greatest withholding social
        exact perform_of_no_fault checks price (same.trans resolved)
  · left
    exact ⟨cause, overflow, perform_of_overflow sinks checks overflow⟩

/-- After any run the profile under an id is as its upserts leave it: their
number is its version, its owner and the time of its creation are from the
first and never change, and the rest is from the latest.  So a preview of net
pay by a profile goes through only if it expects as many upserts as there were,
and then it is priced by the latest of them.  One that passes its other checks
is priced before the profile is looked at.  If that overflows, so does the call;
otherwise it fails only for what stands in the way of the profile.  No run is
stored where it fails. -/
theorem profiles_of_run {past : List Step} {st : Store} (run : Run past st)
    (p : String) :
    st.profiles.get? p = profileOf p (writings p past) ∧
      (∀ s ∈ past,
        KeepsOrigin (s.before.profiles.get? p) (s.after.profiles.get? p) ∧
          KeepsOrigin (s.after.profiles.get? p) (st.profiles.get? p)) ∧
      (∀ ctx sinks input expectedVersion reply,
        ((netPreview input p expectedVersion).perform ctx sinks st).1 =
            .ok reply →
          ∃ latest earlier, writings p past = latest :: earlier ∧
            WentThrough ctx
              ((netPreview input p expectedVersion).perform ctx sinks st).2
              p expectedVersion latest earlier) ∧
      ∀ ctx sinks actor scope input expectedVersion,
        PreviewChecks ctx st actor scope input →
          EndsByProfile ctx sinks st scope input p expectedVersion
            (profileOf p (writings p past)) := by
  refine ⟨run.profile p, run.keepsOrigin p, ?_, ?_⟩
  · intro ctx sinks input expectedVersion reply succeeded
    exact run.wentThrough succeeded
  · intro ctx sinks actor scope input expectedVersion checks
    exact run.endsByProfile p sinks expectedVersion checks

/-! ## Three upserts -/

/-- A step of an admin of an organization, with all features on. -/
def tenantStep (before : Store) (organization : String) (call : Call) :
    Step :=
  { before
    ctx :=
      { config := { Config.standard with features := .allOn }
        actor :=
          some
            { id := "adm-001", role := .admin
              organization := some organization }
        now := ⟨0⟩
        fresh := fun _ => "1" }
    sinks := .working
    call }

/-- Three percent withheld, and a fixed amount. -/
def standardTerms (fixedOther : Int) : ProfileInput :=
  { name := "standard"
    mode := .profile
    withholdingRate := some ⟨false, 3, 2, by decide, by decide⟩
    socialInsuranceRate := none
    fixedOther
    active := true }

/-- A profile is written. -/
def writing : Step :=
  tenantStep Store.empty "org-a" (.upsertProfile "std" (standardTerms 0))

/-- Another organization tries to write it, and is refused. -/
def intruding : Step :=
  tenantStep writing.after "org-b" (.upsertProfile "std" (standardTerms 9))

/-- Its owner writes it again. -/
def revising : Step :=
  tenantStep intruding.after "org-a"
    (.upsertProfile " std " (standardTerms 1000))

/-- The steps of the run, the latest first. -/
def tenantRun : List Step :=
  [revising, intruding, writing]

theorem run_tenantRun : Run tenantRun revising.after := by
  refine .step (.step (.step .start ?_) ?_) ?_
  · exact ⟨rfl, rfl, rfl, rfl, rfl⟩
  · exact ⟨rfl, rfl, rfl, rfl, rfl⟩
  · exact ⟨rfl, rfl, rfl, rfl, rfl⟩

/-- A day to be priced on the terms of the configuration. -/
def wholeDay : PreviewInput :=
  ⟨.ofInstant ⟨0⟩, .ofInstant ⟨86400000000000⟩, none, none, none⟩

theorem checks_wholeDay :
    PreviewChecks revising.ctx revising.after
      { id := "adm-001", role := .admin, organization := some "org-a" }
      (.organization "org-a") wholeDay where
  authorized := rfl
  permitted := rfl
  deductions := rfl
  profiles := rfl
  period := rfl
  rate := by decide
  multipliers := rfl
  employee := nofun

/-- Two of the three upserts count, and a preview that expects three is
refused. -/
theorem profile_of_tenantRun :
    (revising.after.profiles.get? "std").map
        (fun p => (p.version, p.fixedOther)) = some (2, 1000) ∧
      ((netPreview wholeDay "std" 3).perform revising.ctx .working
        revising.after).1 =
          Outcome.refuse (.conflict "deduction profile version mismatch") := by
  obtain ⟨kept, _, _, ends⟩ := profiles_of_run run_tenantRun "std"
  refine ⟨?_, ?_⟩
  · rw [kept]
    rfl
  · rcases ends revising.ctx .working _ _ wholeDay 3 checks_wholeDay with
      ⟨cause, overflow, _⟩ | ⟨_, refused | ⟨_, message, broken, _⟩⟩
    · cases overflow
    · exact refused
    · cases broken

/-- A factor of a thousand million million. -/
def hugeFactor : Decimal :=
  (Decimal.ofParts? (10 ^ 15) 0).getD Decimal.zero

/-- Factors above zero, of which those for overtime on a holiday cannot be put
together. -/
def hugeFactors : Multipliers :=
  ⟨Decimal.one, hugeFactor, Decimal.one, hugeFactor⟩

/-- There is no profile under an id, and what is checked before it is looked at
passes.  But the day is priced first, by factors that cannot be put together;
so the call stops with an overflow, and nobody is told that there is no
profile. -/
theorem netPreview_of_unknown_overflows :
    let hugeDay := { wholeDay with multipliers := some hugeFactors }
    Run tenantRun revising.after ∧
      PreviewChecks revising.ctx revising.after
        { id := "adm-001", role := .admin, organization := some "org-a" }
        (.organization "org-a") hugeDay ∧
      revising.after.profiles.get? "new" = none ∧
      ((netPreview hugeDay "new" 1).perform revising.ctx .working
        revising.after).1 = .error (.overflow .multiplication) :=
  ⟨run_tenantRun, ⟨rfl, rfl, rfl, rfl, rfl, by decide, rfl, nofun⟩, rfl, rfl⟩

end Workforce
