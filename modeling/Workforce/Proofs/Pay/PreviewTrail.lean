import Workforce.Proofs.Atomicity
import Workforce.Proofs.Pay.NetPreview

/-!
# What a preview of net pay is told of

A preview of net pay that is refused because of the state it met is entered in
the audit log as well as answered; one that is refused for what is wrong with
it is only answered.  This module shows, for whoever may preview payroll, that
there is at most one entry, and which one it is:

* that a feature is off is looked at first, so it is entered whatever else is
  wrong, and nothing is priced;
* any other conflict is entered as one, by a second action;
* a preview that succeeds is entered with its run;
* nothing else is entered, and no run is kept of what failed.

The conflicts come from deep inside, and pricing has failures of its own.  The
four endings are told apart once (`NetEnding`), and the rest is read off them.
-/

namespace Workforce

open Service

/-! ## Features -/

namespace FeatureFlags

/-- Whether a feature is off that a request needs. -/
def Withholds (f : FeatureFlags) (request : DeductionRequest) : Prop :=
  f.payrollDeductions = false ∨
    f.deductionProfile = false ∧ request.mode = .profile

/-- What is answered to a request that needs a feature which is off: the first
of the two is named. -/
def withheld (f : FeatureFlags) : Fault :=
  if f.payrollDeductions = false then
    .conflict "payroll_deductions_v1 feature flag is disabled"
  else
    .conflict "deduction_profile_v1 feature flag is disabled"

theorem withheld_isConflict (f : FeatureFlags) :
    f.withheld.isConflict = true := by
  unfold withheld
  split
  · rfl
  · rfl

end FeatureFlags

/-! ## The four endings -/

section Endings

variable {ctx : Context} {st : Store} {actor : Actor} {scope : TenantScope}
  {input : PreviewInput} {request : DeductionRequest}

/-- The ways in which a preview of net pay ends, for whoever may ask for
one. -/
inductive NetEnding (ctx : Context) (st : Store) (actor : Actor)
    (scope : TenantScope) (input : PreviewInput)
    (request : DeductionRequest) : Outcome (Effect PayrollPreview) → Prop
  | withheld (off : ctx.config.features.Withholds request) :
      NetEnding ctx st actor scope input request
        (.ok (refusedPreview ctx st actor scope .payrollPreviewDisabled
          ctx.config.features.withheld []))
  | conflict (on : ¬ ctx.config.features.Withholds request) {fault : Fault}
      (conflict : fault.isConflict = true)
      (details : List (String × Json)) :
      NetEnding ctx st actor scope input request
        (.ok (refusedPreview ctx st actor scope .payrollPreviewConflict
          fault details))
  | failed (on : ¬ ctx.config.features.Withholds request)
      {failure : Failure} (silent : failure.isConflict = false) :
      NetEnding ctx st actor scope input request (.error failure)
  | done (on : ¬ ctx.config.features.Withholds request)
      (priced : PricedPeriod) (summary : DeductionSummary)
      (payload : Option Json) :
      NetEnding ctx st actor scope input request
        (.ok (.told
          (st.write
            { run := some (Call.netRun ctx scope input priced summary) })
          (ctx.notice actor .payrollDeductionsCalculated
            (some (ctx.fresh .run)) scope.organization? payload)
          (priced.toPreview
            (Call.netRun ctx scope input priced summary))))

/-- What becomes of the price of a period when every needed feature is on. -/
theorem netEnding_of_on (on : ¬ ctx.config.features.Withholds request) :
    NetEnding ctx st actor scope input request
      (match previewNet ctx st actor scope input request with
      | .error (.refused fault) =>
        if fault.isConflict then
          .ok (refusedPreview ctx st actor scope .payrollPreviewConflict fault
            [("deductionMode", Wire.encode request.mode),
              ("profileId", Wire.encode request.profileId)])
        else
          Outcome.refuse fault
      | result => result) := by
  cases result : previewNet ctx st actor scope input request with
  | ok e =>
      obtain ⟨priced, summary, payload, _, _, rfl⟩ :=
        Call.previewNet_eq_ok result
      exact .done on priced summary payload
  | error failure =>
      cases failure with
      | overflow cause =>
          exact .failed on rfl
      | refused fault =>
          cases conflict : fault.isConflict with
          | false =>
              simp only [conflict]
              exact .failed on conflict
          | true =>
              simp only [conflict]
              exact .conflict on conflict _

/-- Whoever may preview payroll comes to one of the four endings. -/
theorem netEnding (authorized : ctx.authorize = .ok (actor, scope))
    (permitted : actor.may .runPreview = true) :
    NetEnding ctx st actor scope input request
      (previewPayrollWithDeductions ctx st input request) := by
  have passes : requirePreviewer actor = .ok () :=
    Actor.require_eq_ok.2 permitted
  simp only [previewPayrollWithDeductions, authorized, Outcome.ok_bind,
    passes]
  -- The features come first, so that nothing else can hide one that is off.
  cases deductions : ctx.config.features.payrollDeductions with
  | false =>
      have ending : NetEnding ctx st actor scope input request _ :=
        .withheld (Or.inl deductions)
      rw [FeatureFlags.withheld, if_pos deductions] at ending
      exact ending
  | true =>
      have enabled : ¬ ctx.config.features.payrollDeductions = false := by
        rw [deductions]
        exact Bool.noConfusion
      rw [if_neg (by decide)]
      split
      · rename_i off
        have profiles : ctx.config.features.deductionProfile = false ∧
            request.mode = .profile := by
          simpa [and_comm] using off
        have ending : NetEnding ctx st actor scope input request _ :=
          .withheld (Or.inr profiles)
        rw [FeatureFlags.withheld, if_neg enabled] at ending
        exact ending
      · rename_i profiles
        apply netEnding_of_on
        rintro (off | ⟨off, byProfile⟩)
        · exact enabled off
        · simp [off, byProfile] at profiles

end Endings

/-! ## What is entered -/

/-- An entry of a preview that was refused: it is about no entity, and says
the status and the text of the fault that is answered. -/
structure AuditEntry.TellsRefusal (entry : AuditEntry) (caller : Actor)
    (scope : TenantScope) (fault : Fault) : Prop where
  entity : entry.entity = none
  entityType : entry.entityType = "PayrollRun"
  organization : entry.organization = scope.organization?
  actor : entry.actor = caller.id
  role : entry.role = caller.role
  status : entry.payload.bind (·.member? "status") = some (.int fault.status)
  message : entry.payload.bind (·.member? "message") = some (.str fault.text)

/-- `PreviewTrail ctx st caller scope request done entries`: what is done for a
preview of net pay is its reply and a store, and `entries` are what the audit
log has got by it. -/
structure PreviewTrail (ctx : Context) (st : Store) (caller : Actor)
    (scope : TenantScope) (request : DeductionRequest)
    (done : Outcome Reply × Store) (entries : List AuditEntry) : Prop where
  appended : done.2.audit = st.audit ++ entries
  /-- That a feature is off is entered, and that alone. -/
  withheld :
    entries.map AuditEntry.action =
        ["payroll.deductions.preview_disabled"] ↔
      ctx.config.features.Withholds request
  /-- Any other conflict is entered. -/
  conflict :
    entries.map AuditEntry.action =
        ["payroll.deductions.preview_conflict"] ↔
      ¬ ctx.config.features.Withholds request ∧
        ∃ failure, done.1 = .error failure ∧ failure.isConflict = true
  /-- So is success. -/
  calculated :
    entries.map AuditEntry.action = ["payroll.deductions_calculated"] ↔
      ∃ reply, done.1 = .ok reply
  /-- Nothing is entered of any other failure. -/
  silent :
    entries = [] ↔
      ∃ failure, done.1 = .error failure ∧ failure.isConflict = false
  /-- Where a feature is off the reply says so and depends on nothing else. -/
  unpriced : ctx.config.features.Withholds request →
    done.1 = Outcome.refuse ctx.config.features.withheld
  /-- What fails leaves no run and no event, and its entry tells of the
  fault. -/
  failed : ∀ failure, done.1 = .error failure →
    done.2 = { st with audit := st.audit ++ entries } ∧
      ∀ entry ∈ entries, ∃ fault, failure = .refused fault ∧
        entry.TellsRefusal caller scope fault
  /-- What succeeds keeps its run, and its entry is about that run. -/
  kept : ∀ reply, done.1 = .ok reply →
    ∃ preview, reply = .preview preview ∧
      done.2.payroll = st.payroll.put preview.run ∧
        entries.map AuditEntry.entity = [some preview.run.id]

namespace NetEnding

variable {ctx : Context} {st : Store} {actor : Actor} {scope : TenantScope}
  {input : PreviewInput} {request : DeductionRequest}

/-- An ending as it is recorded, with both sinks in order. -/
def recorded (st : Store) (ending : Outcome (Effect PayrollPreview)) :
    Outcome Reply × Store :=
  ((Effect.ofOutcome st ending).map Reply.preview).record .working

/-- A refusal that is told, but not published, adds its entry and nothing
else. -/
theorem recorded_refusedPreview (action : Action) (fault : Fault)
    (unpublished : action.eventName = none)
    (about : action.entityType = "PayrollRun")
    (details : List (String × Json)) :
    ∃ entry : AuditEntry,
      recorded st
          (.ok (refusedPreview ctx st actor scope action fault details)) =
        (Outcome.refuse fault, { st with audit := st.audit ++ [entry] }) ∧
      entry.action = action.name ∧ entry.TellsRefusal actor scope fault := by
  refine ⟨(ctx.notice actor action none scope.organization? (some (.obj
    ([("status", Wire.encode fault.status),
      ("message", Wire.encode fault.text)] ++ details)))).auditEntry,
    ?_, rfl, rfl, about, rfl, rfl, rfl, rfl, rfl⟩
  rw [recorded, Effect.record_working]
  simp only [Effect.ofOutcome, Effect.map, refusedPreview, Effect.refused,
    Option.bind_some, Notice.event, Context.notice, unpublished,
    Option.map_none, Option.toList_none, List.append_nil, Option.map_some,
    Option.toList_some]
  rfl

/-- The trail of a refusal that is entered: it is a conflict, and the features
decide which of the two entries it leaves. -/
theorem trail_of_refusal {fault : Fault} {entry : AuditEntry}
    (conflict : fault.isConflict = true)
    (tells : entry.TellsRefusal actor scope fault)
    (disabled : entry.action = "payroll.deductions.preview_disabled" ↔
      ctx.config.features.Withholds request)
    (other : entry.action = "payroll.deductions.preview_conflict" ↔
      ¬ ctx.config.features.Withholds request)
    (refused : entry.action ≠ "payroll.deductions_calculated")
    (withheld : ctx.config.features.Withholds request →
      fault = ctx.config.features.withheld) :
    PreviewTrail ctx st actor scope request
      (Outcome.refuse fault, { st with audit := st.audit ++ [entry] })
      [entry] where
  appended := rfl
  withheld := by
    simpa using disabled
  conflict := by
    simp [other, Outcome.refuse, Failure.isConflict, conflict]
  calculated := by
    simp [refused]
  silent := by
    simp [Outcome.refuse, Failure.isConflict, conflict]
  unpriced := by
    intro off
    rw [withheld off]
  failed := by
    intro failure failed
    cases failed
    refine ⟨rfl, ?_⟩
    intro told member
    rw [List.mem_singleton.1 member]
    exact ⟨fault, rfl, tells⟩
  kept := by
    intro reply done
    exact absurd done Outcome.refuse_ne_ok

/-- The trail of a failure that is not entered. -/
theorem trail_of_silence {failure : Failure}
    (on : ¬ ctx.config.features.Withholds request)
    (silent : failure.isConflict = false) :
    PreviewTrail ctx st actor scope request (.error failure, st) [] where
  appended := (List.append_nil _).symm
  withheld := by
    simp [on]
  conflict := by
    simp [silent]
  calculated := by
    simp
  silent := by
    simp [silent]
  unpriced := by
    intro off
    exact absurd off on
  failed := by
    intro other failed
    refine ⟨?_, nofun⟩
    rw [List.append_nil]
  kept := by
    intro reply done
    cases done

/-- The trail of a preview that succeeds. -/
theorem trail_of_success {preview : PayrollPreview} {notice : Notice}
    {after : Store} (on : ¬ ctx.config.features.Withholds request)
    (named : notice.action = .payrollDeductionsCalculated)
    (about : notice.entity = some preview.run.id)
    (appended : after.audit = st.audit ++ [notice.auditEntry])
    (kept : after.payroll = st.payroll.put preview.run) :
    PreviewTrail ctx st actor scope request (.ok (.preview preview), after)
      [notice.auditEntry] := by
  have action : notice.auditEntry.action = "payroll.deductions_calculated" := by
    rw [Notice.auditEntry, named]
    rfl
  constructor
  case appended => exact appended
  case withheld => simp [action, on]
  case conflict => simp [action]
  case calculated => simp [action]
  case silent => simp
  case unpriced =>
    intro off
    exact absurd off on
  case failed =>
    intro failure failed
    cases failed
  case kept =>
    intro reply done
    cases done
    exact ⟨preview, rfl, kept, congrArg (fun id => [id]) about⟩

/-- Every ending leaves its trail. -/
theorem trail {ending : Outcome (Effect PayrollPreview)}
    (ends : NetEnding ctx st actor scope input request ending) :
    ∃ entries, PreviewTrail ctx st actor scope request (recorded st ending)
      entries := by
  cases ends with
  | withheld off =>
      obtain ⟨entry, recorded, named, tells⟩ :=
        recorded_refusedPreview .payrollPreviewDisabled
          ctx.config.features.withheld rfl rfl []
      rw [recorded]
      refine ⟨[entry], trail_of_refusal
        ctx.config.features.withheld_isConflict tells ?_ ?_ ?_ fun _ => rfl⟩
      · rw [named]
        exact iff_of_true rfl off
      · rw [named]
        exact iff_of_false (by decide) (not_not.2 off)
      · rw [named]
        decide
  | @conflict on fault conflict details =>
      obtain ⟨entry, recorded, named, tells⟩ :=
        recorded_refusedPreview .payrollPreviewConflict fault rfl rfl
          details
      rw [recorded]
      refine ⟨[entry], trail_of_refusal conflict tells ?_ ?_ ?_ ?_⟩
      · rw [named]
        exact iff_of_false (by decide) on
      · rw [named]
        exact iff_of_true rfl on
      · rw [named]
        decide
      · exact fun off => absurd off on
  | @failed on failure silent =>
      exact ⟨[], trail_of_silence on silent⟩
  | done on priced summary payload =>
      rw [recorded, Effect.record_working]
      exact ⟨_, trail_of_success on rfl rfl rfl rfl⟩

end NetEnding

/-- Whoever may preview payroll and asks for a preview of net pay leaves a
trail in the audit log, of one entry or of none. -/
theorem trail_of_netPreview {ctx : Context} {st : Store} {actor : Actor}
    {scope : TenantScope} (authorized : ctx.authorize = .ok (actor, scope))
    (permitted : actor.may .runPreview = true) (input : PreviewInput)
    (request : DeductionRequest) :
    ∃ entries, PreviewTrail ctx st actor scope request
      ((Call.previewPayrollWithDeductions input request).perform ctx .working
        st) entries :=
  (netEnding authorized permitted).trail

/-- Two upserts are kept of a profile.  A preview that expects three is
entered as a conflict, and one that expects two with its run; where the feature
is off, that is all that is entered. -/
theorem trails_of_tenantRun :
    (∃ entries,
      ((netPreview wholeDay "std" 3).perform revising.ctx .working
          revising.after).2.audit = revising.after.audit ++ entries ∧
        entries.map AuditEntry.action =
          ["payroll.deductions.preview_conflict"]) ∧
    (∃ entries,
      ((netPreview wholeDay "std" 2).perform revising.ctx .working
          revising.after).2.audit = revising.after.audit ++ entries ∧
        entries.map AuditEntry.action =
          ["payroll.deductions_calculated"]) ∧
    ∃ entries,
      (previewingNet.perform approving.ctx .working
          approving.after).2.audit = approving.after.audit ++ entries ∧
        entries.map AuditEntry.action =
          ["payroll.deductions.preview_disabled"] := by
  have on : ¬ revising.ctx.config.features.Withholds
      (.profile "std" 3) := by
    rintro (off | ⟨off, _⟩)
    · cases off
    · cases off
  refine ⟨?_, ?_, ?_⟩
  · obtain ⟨entries, trail⟩ := trail_of_netPreview
      checks_wholeDay.authorized checks_wholeDay.permitted wholeDay
      (.profile "std" 3)
    exact ⟨entries, trail.appended, trail.conflict.2 ⟨on, _, rfl, rfl⟩⟩
  · obtain ⟨entries, trail⟩ := trail_of_netPreview
      checks_wholeDay.authorized checks_wholeDay.permitted wholeDay
      (.profile "std" 2)
    exact ⟨entries, trail.appended, trail.calculated.2 ⟨_, rfl⟩⟩
  · obtain ⟨entries, trail⟩ := @trail_of_netPreview approving.ctx
      approving.after _ _ rfl rfl
      ⟨.ofInstant ⟨0⟩, .ofInstant ⟨1⟩, none, none, none⟩
      (.manual ⟨0, 0, 0, .empty⟩)
    exact ⟨entries, trail.appended, trail.withheld.2 (Or.inl rfl)⟩

end Workforce
