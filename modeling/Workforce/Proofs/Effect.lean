import Workforce.Proofs.Deed

/-!
# Every call comes to a deed or to nothing

One lemma for each operation that may change the store: if its checks pass, it
comes to its deed, or to half of it.  The chain of checks is taken apart link by link, and the
change of the store is the write of the deed by the lemmas on writes.

The module ends with `Call.effect_comes`, which covers all operations.
-/

namespace Workforce.Call

open Service
open Outcome (bind_eq_ok pure_eq_ok ensure_eq_ok ensure_of ensure_of_not
  neverOverflows_ok neverOverflows_ensure neverOverflows_demand)
open TenantScope (visible_eq_ok)

variable {ctx : Context} {st : Store}

/-- An operation that fails its checks leaves the store as it is. -/
private theorem changing_comes {α : Type} {c : Call}
    {effect : Outcome (Effect α)} {reply : α → Reply}
    (whole : ∀ failure, effect = .error failure →
      c.haltsWith failure = false)
    (passes : ∀ e, effect = .ok e → Comes ctx st c (e.map reply)) :
    Comes ctx st c (changing st effect reply) := by
  cases result : effect with
  | error failure =>
      exact .failed failure (whole failure result)
  | ok e =>
      exact passes e result

private theorem reading_comes {α : Type} {c : Call}
    (only : c.looksOnly = true) (value : Outcome α) (reply : α → Reply) :
    Comes ctx st c (reading st value reply) := by
  cases value with
  | error failure =>
      refine .failed failure ?_
      cases c <;> first | rfl | cases only
  | ok a =>
      exact .looked (reply a) only

theorem reading_eq_ok {α : Type} {value : Outcome α} {form : α → Reply}
    {reply : Reply} (done : (reading st value form).reply = .ok reply) :
    ∃ a, value = .ok a ∧ form a = reply := by
  cases value with
  | error failure =>
      cases done
  | ok a =>
      cases done
      exact ⟨a, rfl, rfl⟩

/-- Schedules that are listed have passed the filter, whether or not it was
looked whether the employee is there. -/
theorem listSchedules_eq_ok {query : ScheduleQuery}
    {rows : List WorkSchedule}
    (listed : Service.listSchedules ctx st query = .ok rows) :
    ∃ caller scope employee, ctx.authorize = .ok (caller, scope) ∧
      ensurePeriod query.period = .ok () ∧
      ListPermissions.schedules.filter caller query.employee =
        .ok employee ∧
      st.listSchedules query.period ⟨scope.organization?, employee⟩ =
        rows := by
  unfold Service.listSchedules at listed
  obtain ⟨⟨caller, scope⟩, authorized, listed⟩ :=
    bind_eq_ok.1 listed
  obtain ⟨_, period, listed⟩ := bind_eq_ok.1 listed
  have filtered :
      (do
        let employee ←
          ListPermissions.schedules.filter caller query.employee
        pure (st.listSchedules query.period
          ⟨scope.organization?, employee⟩) : Outcome (List WorkSchedule)) =
        .ok rows := by
    dsimp only at listed
    split at listed
    · split at listed
      · obtain ⟨_, _, listed⟩ := bind_eq_ok.1 listed
        exact listed
      · exact listed
    · exact listed
  obtain ⟨employee, passed, rows⟩ := bind_eq_ok.1 filtered
  exact ⟨caller, scope, employee, authorized, period, passed,
    pure_eq_ok.1 rows⟩

section Changes

variable {α : Type} {c : Call} {actor : Actor} {scope : TenantScope}
  {change : Outcome α × Store} {a : α} {w : Write} {tell : α → Notice}
  {reply : α → Reply}

/-- A change of the store that is made is a deed. -/
private theorem change_comes
    (authorized : ctx.authorize = .ok (actor, scope))
    (made : change = (.ok a, st.write w))
    (does : c.Does ctx st actor scope w (tell a) (reply a)) :
    Comes ctx st c ((Effect.ofChange change tell).map reply) := by
  subst made
  exact .done authorized does

private theorem told_comes {told : Store} {notice : Notice}
    (authorized : ctx.authorize = .ok (actor, scope))
    (written : told = st.write w)
    (does : c.Does ctx st actor scope w notice (reply a)) :
    Comes ctx st c ((Effect.told told notice a).map reply) := by
  subst written
  exact .done authorized does

private theorem refusal_comes {failure : Failure}
    (refused : change = (.error failure, st))
    (whole : c.haltsWith failure = false) :
    Comes ctx st c ((Effect.ofChange change tell).map reply) := by
  subst refused
  exact .failed failure whole

end Changes

/-! ## Organizations and employees -/

theorem authorizePeople_eq_ok {p : Permission} {deed : String}
    {actor : Actor} {scope : TenantScope} :
    authorizePeople ctx p deed = .ok (actor, scope) ↔
      ctx.authorize = .ok (actor, scope) ∧ actor.may p = true := by
  simp only [authorizePeople, bind_eq_ok, pure_eq_ok, Actor.require_eq_ok,
    Prod.mk.injEq]
  constructor
  · rintro ⟨⟨caller, bounds⟩, authorized, _, permitted, rfl, rfl⟩
    exact ⟨authorized, permitted⟩
  · rintro ⟨authorized, permitted⟩
    exact ⟨(actor, scope), authorized, (), permitted, rfl, rfl⟩

private theorem createOrganization_comes (name : String) :
    Comes ctx st (.createOrganization name)
      (changing st (Service.createOrganization ctx st name)
        .organization) := by
  refine changing_comes (fun _ _ => rfl) ?_
  intro e passed
  simp only [Service.createOrganization, bind_eq_ok, ensure_eq_ok,
    pure_eq_ok] at passed
  obtain ⟨⟨actor, scope⟩, authorized, _, platform, _, named, rfl⟩ := passed
  obtain ⟨authorized, permitted⟩ := authorizePeople_eq_ok.1 authorized
  cases found : st.organizations.get? (ctx.fresh .organization) with
  | some old =>
      exact refusal_comes (Store.insertOrganization_of_kept found) rfl
  | none =>
      exact change_comes authorized (Store.insertOrganization_of_new found)
        (.createOrganization permitted platform named found)

private theorem createEmployee_comes (input : NewEmployee) :
    Comes ctx st (.createEmployee input)
      (changing st (Service.createEmployee ctx st input) .employee) := by
  refine changing_comes (fun _ _ => rfl) ?_
  intro e passed
  simp only [Service.createEmployee, bind_eq_ok, ensure_eq_ok,
    pure_eq_ok] at passed
  obtain ⟨⟨actor, scope⟩, authorized, _, named, organization, placed, rfl⟩ :=
    passed
  obtain ⟨authorized, permitted⟩ := authorizePeople_eq_ok.1 authorized
  cases found : st.employees.get? (Text.trim input.id) with
  | some old =>
      exact refusal_comes (Store.insertEmployee_of_kept found) rfl
  | none =>
      exact change_comes authorized (Store.insertEmployee_of_new found)
        (.createEmployee permitted named placed rfl found)

private theorem updateEmployee_comes (id : String)
    (changes : EmployeeChanges) :
    Comes ctx st (.updateEmployee id changes)
      (changing st (Service.updateEmployee ctx st id changes)
        .employee) := by
  refine changing_comes (fun _ _ => rfl) ?_
  intro e passed
  simp only [Service.updateEmployee, bind_eq_ok, requireEmployee,
    visible_eq_ok] at passed
  obtain ⟨⟨actor, scope⟩, authorized, existing, ⟨found, visible⟩, passed⟩ :=
    passed
  obtain ⟨authorized, permitted⟩ := authorizePeople_eq_ok.1 authorized
  have kept := Table.get?_key found
  cases asked : changes.organization with
  | none =>
      simp only [asked, bind_eq_ok, pure_eq_ok] at passed
      obtain ⟨organization, rfl, rfl⟩ := passed
      exact change_comes authorized (Store.updateEmployee_of_kept kept)
        (.updateEmployee permitted found visible (.inl ⟨asked, rfl⟩))
  | some requested =>
      simp only [asked, bind_eq_ok, pure_eq_ok] at passed
      obtain ⟨organization, placed, rfl⟩ := passed
      refine change_comes authorized (Store.updateEmployee_of_kept kept)
        (.updateEmployee permitted found visible (.inr ⟨?_, ?_⟩))
      · rw [asked]
        rfl
      · rw [asked]
        exact placed

/-! ## Attendance records and schedules -/

private theorem createRecord_comes (input : NewRecord) :
    Comes ctx st (.createRecord input)
      (changing st (Service.createRecord ctx st input) .record) := by
  refine changing_comes (fun _ _ => rfl) ?_
  intro e passed
  simp only [Service.createRecord, bind_eq_ok, Actor.requireAny_eq_ok,
    requireEmployee, visible_eq_ok, OwnOrAny.require_eq_ok,
    pure_eq_ok] at passed
  obtain ⟨⟨actor, scope⟩, authorized, _, permitted, ⟨⟩, shift, employee,
    ⟨found, visible⟩, _, own, rfl⟩ := passed
  exact told_comes authorized (Store.insertRecord_eq_write _ _)
    (.createRecord permitted shift found visible own rfl)

private theorem updateRecord_comes (id : String) (changes : RecordChanges) :
    Comes ctx st (.updateRecord id changes)
      (changing st (Service.updateRecord ctx st id changes) .record) := by
  refine changing_comes (fun _ _ => rfl) ?_
  intro e passed
  simp only [Service.updateRecord, bind_eq_ok, Actor.requireAny_eq_ok,
    requireRecord, visible_eq_ok, OwnOrAny.require_eq_ok,
    ensurePendingRecord, ensure_eq_ok, pure_eq_ok] at passed
  obtain ⟨⟨actor, scope⟩, authorized, _, permitted, existing,
    ⟨found, visible⟩, _, own, _, pending, ⟨⟩, shift, rfl⟩ := passed
  have kept := Table.get?_key found
  exact change_comes authorized
    (Store.updatePendingRecord_of_pending kept pending)
    (.updateRecord permitted found visible own pending shift)

private theorem approveRecord_comes (id : String) :
    Comes ctx st (.approveRecord id)
      (changing st (Service.approveRecord ctx st id) .record) := by
  refine changing_comes (fun _ _ => rfl) ?_
  intro e passed
  simp only [Service.approveRecord, bind_eq_ok, Actor.require_eq_ok,
    requireRecord, visible_eq_ok, ensurePendingRecord, ensure_eq_ok,
    pure_eq_ok] at passed
  obtain ⟨⟨actor, scope⟩, authorized, _, permitted, existing,
    ⟨found, visible⟩, _, pending, rfl⟩ := passed
  have kept := Table.get?_key found
  exact change_comes authorized
    (Store.updatePendingRecord_of_pending kept pending)
    (.approveRecord permitted found visible pending)

private theorem rejectRecord_comes (id : String) (reason : Option String) :
    Comes ctx st (.rejectRecord id reason)
      (changing st (Service.rejectRecord ctx st id reason) .record) := by
  refine changing_comes (fun _ _ => rfl) ?_
  intro e passed
  simp only [Service.rejectRecord, bind_eq_ok, Actor.require_eq_ok,
    requireRecord, visible_eq_ok, ensurePendingRecord, ensure_eq_ok,
    pure_eq_ok] at passed
  obtain ⟨⟨actor, scope⟩, authorized, _, permitted, existing,
    ⟨found, visible⟩, _, pending, rfl⟩ := passed
  have kept := Table.get?_key found
  exact change_comes authorized
    (Store.updatePendingRecord_of_pending kept pending)
    (.rejectRecord permitted found visible pending)

/-- Before a shift is assigned nothing overflows. -/
theorem createSchedule_neverOverflows (input : NewSchedule) :
    (Service.createSchedule ctx st input).NeverOverflows := by
  unfold Service.createSchedule
  refine ctx.authorize_neverOverflows.bind fun caller => ?_
  refine (neverOverflows_ensure _).bind fun _ => ?_
  refine (neverOverflows_ensure _).bind fun _ => ?_
  refine .bind ?_ fun _ => ?_
  · exact (neverOverflows_ensure _).bind fun _ => neverOverflows_ensure _
  refine (neverOverflows_demand _ _).bind fun employee => ?_
  exact (neverOverflows_ensure _).bind fun _ => neverOverflows_ok _

private theorem createSchedule_comes (input : NewSchedule) :
    Comes ctx st (.createSchedule input)
      (changing st (Service.createSchedule ctx st input) .schedule) := by
  refine changing_comes ?_ ?_
  · intro failure failed
    cases failure with
    | refused fault =>
        rfl
    | overflow cause =>
        exact absurd failed (createSchedule_neverOverflows input cause)
  intro e passed
  simp only [Service.createSchedule, bind_eq_ok, Actor.require_eq_ok,
    requireEmployee, visible_eq_ok, ensure_eq_ok, pure_eq_ok] at passed
  obtain ⟨⟨actor, scope⟩, authorized, _, permitted, _, ordered, ⟨⟩, bounded,
    employee, ⟨found, visible⟩, _, free, rfl⟩ := passed
  let s := input.toSchedule (ctx.fresh .schedule) employee ctx.now
  have free : st.overlappingSchedules s.employee s.start.instant
      s.finish.instant = [] := List.isEmpty_iff.1 free
  have does (payload : Option Json) :=
    @Does.createSchedule ctx st actor scope input employee s payload permitted
      ordered bounded found visible rfl free
  rw [Store.insertSchedule_of_free free]
  cases planned : s.workInterval.split with
  | ok minutes =>
      simp only [Effect.afterChange, planned]
      exact .done authorized (does _)
  | error cause =>
      simp only [Effect.afterChange, planned]
      exact .halted authorized rfl (does none) planned

/-! ## Leave requests and ledgers -/

private theorem createLeave_comes (input : NewLeave) :
    Comes ctx st (.createLeave input)
      (changing st (Service.createLeave ctx st input) .leave) := by
  refine changing_comes (fun _ _ => rfl) ?_
  intro e passed
  simp only [Service.createLeave, bind_eq_ok, requireLeaveWriter,
    Actor.requireAny_eq_ok, requireEmployee, visible_eq_ok,
    OwnOrAny.require_eq_ok, ensureNoOverlap, ensure_eq_ok,
    pure_eq_ok] at passed
  obtain ⟨⟨actor, scope⟩, authorized, _, permitted, days, span, employee,
    ⟨found, visible⟩, _, own, _, free, rfl⟩ := passed
  have free := List.isEmpty_iff.1 free
  exact told_comes authorized (Store.insertLeave_eq_write _ _)
    (.createLeave permitted span found visible own rfl free)

private theorem updateLeave_comes (id : String) (changes : LeaveChanges) :
    Comes ctx st (.updateLeave id changes)
      (changing st (Service.updateLeave ctx st id changes) .leave) := by
  refine changing_comes (fun _ _ => rfl) ?_
  intro e passed
  simp only [Service.updateLeave, bind_eq_ok, requireLeaveWriter,
    Actor.requireAny_eq_ok, requireLeave, visible_eq_ok, ensurePendingLeave,
    OwnOrAny.require_eq_ok, ensureNoOverlap, ensure_eq_ok,
    pure_eq_ok] at passed
  obtain ⟨⟨actor, scope⟩, authorized, _, permitted, existing,
    ⟨found, visible⟩, _, pending, _, own, days, span, _, free, rfl⟩ := passed
  have free := List.isEmpty_iff.1 free
  have kept := Table.get?_key found
  exact change_comes authorized
    (Store.updatePendingLeave_of_pending kept pending)
    (.updateLeave permitted found visible pending own rfl span free)

private theorem approveLeave_comes (id : String) :
    Comes ctx st (.approveLeave id)
      (changing st (Service.approveLeave ctx st id) .approval) := by
  refine changing_comes (fun _ _ => rfl) ?_
  intro e passed
  simp only [Service.approveLeave, bind_eq_ok, Actor.require_eq_ok,
    requireLeave, visible_eq_ok, ensurePendingLeave, ensure_eq_ok,
    pure_eq_ok] at passed
  obtain ⟨⟨actor, scope⟩, authorized, _, permitted, existing,
    ⟨found, visible⟩, _, pending, rfl⟩ := passed
  have kept := Table.get?_key found
  exact change_comes authorized
    (Store.approveLeave_of_pending _ _ _ kept pending)
    (.approveLeave permitted found visible pending)

private theorem rejectLeave_comes (id reason : String) :
    Comes ctx st (.rejectLeave id reason)
      (changing st (Service.rejectLeave ctx st id reason) .leave) := by
  refine changing_comes (fun _ _ => rfl) ?_
  intro e passed
  simp only [Service.rejectLeave, bind_eq_ok, Actor.require_eq_ok,
    requireLeave, visible_eq_ok, ensurePendingLeave, ensure_eq_ok,
    pure_eq_ok] at passed
  obtain ⟨⟨actor, scope⟩, authorized, _, permitted, _, reasoned, existing,
    ⟨found, visible⟩, _, pending, rfl⟩ := passed
  have kept := Table.get?_key found
  exact change_comes authorized
    (Store.recordDecision_of_pending _ kept pending)
    (.rejectLeave permitted reasoned found visible pending)

private theorem cancelLeave_comes (id : String) (reason : Option String) :
    Comes ctx st (.cancelLeave id reason)
      (changing st (Service.cancelLeave ctx st id reason) .leave) := by
  refine changing_comes (fun _ _ => rfl) ?_
  intro e passed
  simp only [Service.cancelLeave, bind_eq_ok, requireLeaveWriter,
    Actor.requireAny_eq_ok, requireLeave, visible_eq_ok, ensurePendingLeave,
    OwnOrAny.require_eq_ok, ensure_eq_ok, pure_eq_ok] at passed
  obtain ⟨⟨actor, scope⟩, authorized, _, permitted, existing,
    ⟨found, visible⟩, _, pending, _, own, rfl⟩ := passed
  have kept := Table.get?_key found
  exact change_comes authorized
    (Store.recordDecision_of_pending _ kept pending)
    (.cancelLeave permitted found visible pending own)

private theorem readBalance_comes (id : String) :
    Comes ctx st (.readBalance id)
      (changing st (Service.readBalance ctx st id) .balance) := by
  refine changing_comes (fun _ _ => rfl) ?_
  intro e passed
  simp only [Service.readBalance, bind_eq_ok, Actor.requireAny_eq_ok,
    requireEmployee, visible_eq_ok, OwnOrAny.require_eq_ok,
    pure_eq_ok] at passed
  obtain ⟨⟨actor, scope⟩, authorized, _, permitted, employee,
    ⟨found, visible⟩, _, own, rfl⟩ := passed
  rw [Store.openBalance_eq_write]
  exact told_comes authorized rfl (.readBalance permitted found visible own)

/-- Terms that are accepted are accepted as they were given. -/
theorem settlement_of_eq_ok {year annualGrantDays carryOverCapDays : Int}
    {s : Settlement}
    (accepted : Settlement.of year annualGrantDays carryOverCapDays = .ok s) :
    s = { year, annualGrantDays, carryOverCapDays } := by
  simp only [Settlement.of, bind_eq_ok, ensure_eq_ok, pure_eq_ok] at accepted
  obtain ⟨_, _, _, _, _, _, rfl⟩ := accepted
  rfl

private theorem settleAccrual_comes (input : AccrualInput) :
    Comes ctx st (.settleAccrual input)
      (changing st (Service.settleAccrual ctx st input) .balance) := by
  refine changing_comes (fun _ _ => rfl) ?_
  intro e passed
  simp only [Service.settleAccrual, bind_eq_ok, Actor.require_eq_ok,
    requireEmployee, visible_eq_ok, pure_eq_ok] at passed
  obtain ⟨⟨actor, scope⟩, authorized, _, permitted, terms, accepted,
    employee, ⟨found, visible⟩, rfl⟩ := passed
  have same : terms = settlementTerms ctx input :=
    settlement_of_eq_ok accepted
  subst same
  have settlement := Store.settleBalance_eq_write st employee.id
    employee.organization ctx.config.leave.grantedDays ctx.now
    (settlementTerms ctx input)
  cases settled : (openedLedger ctx st employee.id
      employee.organization).settle (settlementTerms ctx input) ctx.now with
  | error failure =>
      unfold openedLedger at settled
      rw [settled] at settlement
      exact refusal_comes settlement rfl
  | ok b =>
      have done := settled
      unfold openedLedger at settled
      rw [settled] at settlement
      exact change_comes authorized settlement
        (.settleAccrual permitted accepted found visible done)

/-! ## Payroll runs and profiles -/

private theorem previewPayroll_comes (input : PreviewInput) :
    Comes ctx st (.previewPayroll input)
      (changing st (Service.previewPayroll ctx st input) .preview) := by
  refine changing_comes (fun _ _ => rfl) ?_
  intro e passed
  simp only [Service.previewPayroll, bind_eq_ok, requirePreviewer,
    Actor.require_eq_ok, pure_eq_ok] at passed
  obtain ⟨⟨actor, scope⟩, authorized, _, permitted, priced, price, rfl⟩ :=
    passed
  exact told_comes authorized (Store.insertRun_eq_write _ _)
    (.previewPayroll permitted price)

/-- A net preview that goes through prices the period and resolves the
deductions, and keeps the run. -/
theorem previewNet_eq_ok {actor : Actor} {scope : TenantScope}
    {input : PreviewInput} {request : DeductionRequest}
    {e : Effect PayrollPreview}
    (passed : previewNet ctx st actor scope input request = .ok e) :
    ∃ priced summary payload,
      pricePeriod ctx st scope input = .ok priced ∧
        resolveDeductions priced.breakdown.grossPay request
          ((request.profileId.bind st.profiles.get?).filter
            fun p => scope.permits p.organization) = .ok summary ∧
        e = .told
          (st.write { run := some (netRun ctx scope input priced summary) })
          (ctx.notice actor .payrollDeductionsCalculated
            (some (ctx.fresh .run)) scope.organization? payload)
          (priced.toPreview (netRun ctx scope input priced summary)) := by
  simp only [previewNet, bind_eq_ok, pure_eq_ok,
    Store.insertRun_eq_write] at passed
  obtain ⟨priced, price, summary, resolved, rfl⟩ := passed
  exact ⟨priced, summary, _, price, resolved, rfl⟩

private theorem previewPayrollWithDeductions_comes (input : PreviewInput)
    (request : DeductionRequest) :
    Comes ctx st (.previewPayrollWithDeductions input request)
      (changing st
        (Service.previewPayrollWithDeductions ctx st input request)
        .preview) := by
  refine changing_comes (fun _ _ => rfl) ?_
  intro e passed
  simp only [Service.previewPayrollWithDeductions, bind_eq_ok,
    requirePreviewer, Actor.require_eq_ok] at passed
  obtain ⟨⟨actor, scope⟩, authorized, _, permitted, passed⟩ := passed
  split at passed
  · cases passed
    exact .warned authorized rfl rfl rfl
  · rename_i enabled
    split at passed
    · cases passed
      exact .warned authorized rfl rfl rfl
    · rename_i profiles
      split at passed
      · split at passed
        · rename_i conflict
          cases passed
          exact .warned authorized rfl conflict rfl
        · exact absurd passed Outcome.refuse_ne_ok
      · obtain ⟨priced, summary, payload, price, resolved, rfl⟩ :=
          previewNet_eq_ok passed
        refine .done authorized (.previewPayrollWithDeductions permitted
          (by simpa using enabled) ?_ price resolved)
        intro byProfile
        simpa [byProfile] using profiles

private theorem confirmRun_comes (id : String) :
    Comes ctx st (.confirmRun id)
      (changing st (Service.confirmRun ctx st id) .run) := by
  refine changing_comes (fun _ _ => rfl) ?_
  intro e passed
  simp only [Service.confirmRun, bind_eq_ok, Actor.require_eq_ok,
    visible_eq_ok, ensure_eq_ok, pure_eq_ok] at passed
  obtain ⟨⟨actor, scope⟩, authorized, _, permitted, existing,
    ⟨found, visible⟩, _, previewed, rfl⟩ := passed
  have kept := Table.get?_key found
  exact change_comes authorized
    (Store.confirmRun_of_previewed _ _ kept previewed)
    (.confirmRun permitted found visible previewed)

private theorem readProfile_comes (id : String) :
    Comes ctx st (.readProfile id)
      (changing st (Service.readProfile ctx st id) .profile) := by
  refine changing_comes (fun _ _ => rfl) ?_
  intro e passed
  simp only [Service.readProfile, bind_eq_ok, Actor.require_eq_ok,
    visible_eq_ok, pure_eq_ok] at passed
  obtain ⟨⟨actor, scope⟩, authorized, _, permitted, p, ⟨found, visible⟩,
    rfl⟩ := passed
  exact told_comes authorized (Store.write_nothing st).symm
    (.readProfile permitted found visible)

private theorem upsertProfile_comes (id : String) (input : ProfileInput) :
    Comes ctx st (.upsertProfile id input)
      (changing st (Service.upsertProfile ctx st id input) .profile) := by
  refine changing_comes (fun _ _ => rfl) ?_
  intro e passed
  simp only [Service.upsertProfile, bind_eq_ok, Actor.require_eq_ok,
    pure_eq_ok] at passed
  obtain ⟨⟨actor, scope⟩, authorized, _, permitted, ⟨⟩, valid, rfl⟩ := passed
  by_cases within : ∀ old, st.profiles.get? (Text.trim id) = some old →
      scope.permits old.organization = true
  · exact change_comes authorized
      (Store.upsertProfile_of_permitted ctx.now within)
      (.upsertProfile permitted valid within rfl)
  · simp only [not_forall, Bool.not_eq_true] at within
    obtain ⟨old, found, hidden⟩ := within
    exact refusal_comes (Store.upsertProfile_of_hidden ctx.now found hidden)
      rfl

/-! ## All operations -/

/-- Every call leaves the store as it is or comes to a deed, or to half of
one. -/
theorem effect_comes (ctx : Context) (st : Store) (c : Call) :
    Comes ctx st c (c.effect ctx st) := by
  cases c with
  | createOrganization name => exact createOrganization_comes name
  | listOrganizations => exact reading_comes rfl _ _
  | getOrganization id => exact reading_comes rfl _ _
  | createEmployee input => exact createEmployee_comes input
  | listEmployees active => exact reading_comes rfl _ _
  | getEmployee id => exact reading_comes rfl _ _
  | updateEmployee id changes => exact updateEmployee_comes id changes
  | createRecord input => exact createRecord_comes input
  | updateRecord id changes => exact updateRecord_comes id changes
  | approveRecord id => exact approveRecord_comes id
  | rejectRecord id reason => exact rejectRecord_comes id reason
  | listRecords query => exact reading_comes rfl _ _
  | listAggregates query => exact reading_comes rfl _ _
  | createLeave input => exact createLeave_comes input
  | updateLeave id changes => exact updateLeave_comes id changes
  | approveLeave id => exact approveLeave_comes id
  | rejectLeave id reason => exact rejectLeave_comes id reason
  | cancelLeave id reason => exact cancelLeave_comes id reason
  | listLeave query => exact reading_comes rfl _ _
  | listDecisions id => exact reading_comes rfl _ _
  | readBalance employee => exact readBalance_comes employee
  | settleAccrual input => exact settleAccrual_comes input
  | createSchedule input => exact createSchedule_comes input
  | listSchedules query => exact reading_comes rfl _ _
  | previewPayroll input => exact previewPayroll_comes input
  | previewPayrollWithDeductions input request =>
      exact previewPayrollWithDeductions_comes input request
  | confirmRun id => exact confirmRun_comes id
  | listRuns employee state => exact reading_comes rfl _ _
  | readProfile id => exact readProfile_comes id
  | upsertProfile id input => exact upsertProfile_comes id input

end Workforce.Call
