import Workforce.Proofs.Atomicity

/-!
# Who is refused because of an overlap

Requests for leave and schedules are refused when the employee has another one
at the time.  This module shows where such a refusal comes from:

* every check of the operations fails for other reasons, but for the two that
  look for overlaps (`Outcome.Unhindered`);
* an operation that is refused because of an overlap is one of three, and it
  has passed all checks that come before (`Call.hindered_of_refused`).

The checks are closed under chaining, so that each operation is settled by the
list of its checks.
-/

namespace Workforce

/-- Whether a fault says that there is something else at the time. -/
def Fault.isOverlap : Fault → Bool
  | conflict message =>
    message == "overlapping leave request exists" ||
      message == "overlapping schedule exists"
  | _ => false

/-! ## Checks that look for no overlap -/

/-- An outcome that is no refusal because of an overlap. -/
def Outcome.Unhindered {α : Type} (x : Outcome α) : Prop :=
  ∀ fault, x = Outcome.refuse fault → fault.isOverlap = false

namespace Outcome.Unhindered

variable {α β : Type} {x : Outcome α}

theorem of_ok (a : α) : Unhindered (.ok a : Outcome α) := by
  intro fault refused
  cases refused

theorem of_refuse {fault : Fault} (other : fault.isOverlap = false) :
    Unhindered (refuse fault : Outcome α) := by
  rintro same ⟨⟩
  exact other

theorem bind {f : α → Outcome β} (first : x.Unhindered)
    (rest : ∀ a, (f a).Unhindered) : (x >>= f).Unhindered := by
  intro fault refused
  rcases bind_eq_error.1 refused with failed | ⟨a, _, failed⟩
  · exact first fault failed
  · exact rest a fault failed

theorem ensure {condition : Prop} [Decidable condition] {fault : Fault}
    (other : fault.isOverlap = false) :
    (Outcome.ensure condition fault).Unhindered := by
  intro told refused
  obtain ⟨_, same⟩ := ensure_eq_error.1 refused
  cases same
  exact other

theorem demand {value : Option α} {fault : Fault}
    (other : fault.isOverlap = false) :
    (Outcome.demand value fault).Unhindered := by
  intro told refused
  obtain ⟨_, same⟩ := demand_eq_error.1 refused
  cases same
  exact other

theorem ofAmount {amount : Except Overflow α} :
    (Outcome.ofAmount amount).Unhindered := by
  cases amount with
  | error cause =>
      intro fault refused
      cases refused
  | ok a =>
      exact of_ok a

theorem visible [Owned α] {scope : TenantScope} {entity : Option α}
    {message : String} : (scope.visible entity message).Unhindered :=
  demand rfl

theorem authorize {ctx : Context} : ctx.authorize.Unhindered := by
  intro fault refused
  obtain ⟨message, same⟩ := Context.authorize_eq_error refused
  cases same
  rfl

theorem requireAny {a : Actor} {ps : List Permission} {message : String} :
    (a.requireAny ps message).Unhindered :=
  ensure rfl

theorem ownOrAny {p : OwnOrAny} {a : Actor} {employee message : String} :
    (p.require a employee message).Unhindered :=
  ensure rfl

theorem filter {p : ListPermissions} {a : Actor}
    {requested : Option String} : (p.filter a requested).Unhindered := by
  unfold ListPermissions.filter
  split
  · exact of_ok _
  · split
    · split
      · exact of_ok _
      · exact of_refuse rfl
    · split
      · split
        · split
          · exact of_refuse rfl
          · exact of_ok _
        · exact of_refuse rfl
      · exact of_refuse rfl

theorem people {ctx : Context} {p : Permission} {deed : String} :
    (Service.authorizePeople ctx p deed).Unhindered :=
  authorize.bind fun _ =>
    requireAny.bind fun _ => of_ok _

theorem placement {st : Store} {scope : TenantScope}
    {requested : Option String} :
    (Service.placement st scope requested).Unhindered := by
  unfold Service.placement
  split
  · exact visible.bind fun _ => of_ok _
  · exact of_ok _

theorem breakAndNotes {breakMinutes : Int} {notes : Option String} :
    (Service.ensureBreakAndNotes breakMinutes notes).Unhindered :=
  (ensure rfl).bind fun _ => ensure rfl

theorem shift {checkIn : ZonedTime} {checkOut : Option ZonedTime}
    {breakMinutes : Int} {notes : Option String} :
    (Service.ensureShift checkIn checkOut breakMinutes notes).Unhindered :=
  (ensure rfl).bind fun _ => breakAndNotes

theorem leaveDays {start finish : Instant} :
    (Workforce.leaveDays start finish).Unhindered :=
  (ensure rfl).bind fun _ => (ensure rfl).bind fun _ => of_ok _

theorem settlement {year annualGrantDays carryOverCapDays : Int} :
    (Settlement.of year annualGrantDays carryOverCapDays).Unhindered :=
  (ensure rfl).bind fun _ => (ensure rfl).bind fun _ =>
    (ensure rfl).bind fun _ => of_ok _

theorem profile {id : String} {input : Service.ProfileInput} :
    (Service.ensureProfile id input).Unhindered :=
  (ensure rfl).bind fun _ => (ensure rfl).bind fun _ =>
    (ensure rfl).bind fun _ => (ensure rfl).bind fun _ => ensure rfl

theorem pricePeriod {ctx : Context} {st : Store} {scope : TenantScope}
    {input : Service.PreviewInput} :
    (Service.pricePeriod ctx st scope input).Unhindered := by
  refine (ensure rfl).bind fun _ => (ensure rfl).bind fun _ =>
    (ensure rfl).bind fun _ => ?_
  split
  · exact visible.bind fun _ => ofAmount.bind fun _ =>
      ofAmount.bind fun _ => of_ok _
  · exact ofAmount.bind fun _ => ofAmount.bind fun _ => of_ok _

theorem deductions {grossPay : Int} {request : DeductionRequest}
    {profile : Option DeductionProfile} :
    (resolveDeductions grossPay request profile).Unhindered := by
  cases request with
  | manual amounts =>
      refine bind ?_ fun _ => of_ok _
      unfold ManualDeductions.validate
      induction amounts.named with
      | nil =>
          exact of_ok ()
      | cons e rest inductionHypothesis =>
          exact (ensure rfl).bind fun _ => inductionHypothesis
  | profile id expectedVersion =>
      refine (demand rfl).bind fun _ => ?_
      exact (ensure (by decide)).bind fun _ =>
        (ensure (by decide)).bind fun _ => (ensure (by decide)).bind fun _ =>
          ofAmount.bind fun _ => ofAmount.bind fun _ => of_ok _

end Outcome.Unhindered

/-! ## Changes of the store -/

namespace Store

open Outcome (Unhindered)

variable {st : Store}

theorem updatePendingRecord_unhindered {r : AttendanceRecord} :
    (st.updatePendingRecord r).1.Unhindered := by
  unfold updatePendingRecord
  split
  · exact .of_ok _
  · exact .of_refuse (by decide)

theorem updatePendingLeave_unhindered {r : LeaveRequest} :
    (st.updatePendingLeave r).1.Unhindered := by
  unfold updatePendingLeave
  split
  · exact .of_ok _
  · exact .of_refuse (by decide)

theorem recordDecision_unhindered {r : LeaveRequest} {d : LeaveDecision} :
    (st.recordDecision r d).1.Unhindered := by
  unfold recordDecision
  split
  · exact .of_ok _
  · exact .of_refuse (by decide)

theorem approveLeave_unhindered {r : LeaveRequest} {d : LeaveDecision}
    {grantedDays : Int} {now : Instant} :
    (st.approveLeave r d grantedDays now).1.Unhindered := by
  have decided : (st.recordDecision r d).1.Unhindered :=
    recordDecision_unhindered
  unfold approveLeave
  split
  · exact .of_ok _
  · rename_i failure left failed
    rw [failed] at decided
    rintro fault ⟨⟩
    exact decided fault rfl

theorem settleBalance_unhindered {employee : String}
    {organization : Option String} {s : Settlement} {grantedDays : Int}
    {now : Instant} :
    (st.settleBalance employee organization s grantedDays
      now).1.Unhindered := by
  have settled :
      ((st.ledger employee organization grantedDays now).settle s
        now).Unhindered :=
    (Unhindered.ensure (by decide)).bind fun _ => .of_ok _
  rw [settleBalance_eq_write]
  split
  · exact .of_ok _
  · rename_i failure failed
    rw [failed] at settled
    exact settled

theorem insertSchedule_unhindered {s : WorkSchedule}
    (free : st.overlappingSchedules s.employee s.start.instant
      s.finish.instant = []) : (st.insertSchedule s).1.Unhindered := by
  rw [insertSchedule_of_free free]
  exact .of_ok s

theorem confirmRun_unhindered {id actor : String} {time : Instant} :
    (st.confirmRun id actor time).1.Unhindered := by
  unfold confirmRun
  split
  · split
    · exact .of_ok _
    · exact .of_refuse (by decide)
  · exact .of_refuse (by decide)

theorem upsertProfile_unhindered {scope : TenantScope} {d : ProfileDraft}
    {now : Instant} : (st.upsertProfile scope d now).1.Unhindered := by
  unfold upsertProfile
  split
  · split
    · exact .of_ok _
    · exact .of_refuse rfl
  · exact .of_ok _

theorem insertEmployee_unhindered {e : Employee} :
    (st.insertEmployee e).1.Unhindered := by
  unfold insertEmployee
  split
  · exact .of_refuse (by decide)
  · exact .of_ok _

theorem updateEmployee_unhindered {e : Employee} :
    (st.updateEmployee e).1.Unhindered := by
  unfold updateEmployee
  split
  · exact .of_ok _
  · exact .of_refuse rfl

theorem insertOrganization_unhindered {o : Organization} :
    (st.insertOrganization o).1.Unhindered := by
  unfold insertOrganization
  split
  · exact .of_refuse (by decide)
  · exact .of_ok _

end Store

/-! ## Operations -/

namespace Call

open Service Outcome

variable {ctx : Context} {st : Store} {α β : Type}

/-- An operation that is not refused because of an overlap. -/
private def Free (st : Store) (effect : Outcome (Effect α)) : Prop :=
  (Effect.ofOutcome st effect).reply.Unhindered

private theorem Free.told {left : Store} {notice : Notice} {value : α} :
    Free st (.ok (.told left notice value)) :=
  Unhindered.of_ok value

private theorem Free.refused {left : Store} {notice : Notice} {fault : Fault}
    (other : fault.isOverlap = false) :
    Free st (.ok (.refused left notice fault : Effect α)) :=
  Unhindered.of_refuse other

private theorem Free.change {change : Outcome α × Store} {tell : α → Notice}
    (unhindered : change.1.Unhindered) :
    Free st (.ok (.ofChange change tell)) := by
  obtain ⟨reply, left⟩ := change
  cases reply with
  | error failure =>
      exact unhindered
  | ok a =>
      exact unhindered

private theorem Free.afterChange {change : Outcome α × Store}
    {tell : α → Outcome Notice} (unhindered : change.1.Unhindered)
    (told : ∀ a, (tell a).Unhindered) :
    Free st (.ok (.afterChange change tell)) := by
  obtain ⟨reply, left⟩ := change
  cases reply with
  | error failure =>
      exact unhindered
  | ok a =>
      intro fault refused
      cases notice : tell a with
      | error failure =>
          simp only [Effect.ofOutcome, Effect.afterChange, notice] at refused
          cases refused
          exact told a fault notice
      | ok n =>
          simp only [Effect.ofOutcome, Effect.afterChange, notice] at refused
          cases refused

private theorem Free.after {x : Outcome β} {f : β → Outcome (Effect α)}
    (first : x.Unhindered) (rest : ∀ b, Free st (f b)) :
    Free st (x >>= f) := by
  cases x with
  | error failure =>
      rintro fault ⟨⟩
      exact first fault rfl
  | ok b =>
      exact rest b

/-- The form of the reply does not matter to a refusal. -/
private theorem refused_of_changing {x : Outcome (Effect α)}
    {form : α → Reply} {fault : Fault}
    (refused : (Call.changing st x form).reply = refuse fault) :
    (Effect.ofOutcome st x).reply = refuse fault := by
  unfold Call.changing Effect.map at refused
  cases replied : (Effect.ofOutcome st x).reply with
  | error failure =>
      rw [replied] at refused
      cases refused
      rfl
  | ok a =>
      rw [replied] at refused
      cases refused

private theorem Free.changing {x : Outcome (Effect α)} (free : Free st x)
    (form : α → Reply) : (Call.changing st x form).reply.Unhindered :=
  fun fault refused => free fault (refused_of_changing refused)

private theorem reading_unhindered {x : Outcome α} (free : x.Unhindered)
    (form : α → Reply) : (reading st x form).reply.Unhindered := by
  cases x with
  | error failure =>
      rintro fault ⟨⟩
      exact free fault rfl
  | ok a =>
      exact .of_ok (form a)

private theorem previewPayrollWithDeductions_free {input : PreviewInput}
    {request : DeductionRequest} :
    Free st (Service.previewPayrollWithDeductions ctx st input request) := by
  refine .after .authorize fun passed => .after .requireAny fun _ => ?_
  have net :
      Free st (previewNet ctx st passed.1 passed.2 input request) :=
    .after .pricePeriod fun _ => .after .deductions fun _ => .told
  dsimp only
  split
  · exact .refused (by decide)
  · split
    · exact .refused (by decide)
    · split
      · rename_i fault failed
        rw [failed] at net
        have other : fault.isOverlap = false := net fault rfl
        split
        · exact .refused other
        · exact Unhindered.of_refuse other
      · exact net

def seeksOverlap : Call → Bool
  | createLeave _ => true
  | updateLeave _ _ => true
  | createSchedule _ => true
  | _ => false

/-- No operation but the three that look for overlaps is refused because of
one. -/
theorem effect_unhindered {c : Call} (other : c.seeksOverlap = false) :
    (c.effect ctx st).reply.Unhindered := by
  cases c with
  | createOrganization name =>
      refine Free.changing ?_ _
      exact .after .people fun _ => .after (.ensure rfl) fun _ =>
        .after (.ensure rfl) fun _ =>
          .change Store.insertOrganization_unhindered
  | createEmployee input =>
      refine Free.changing ?_ _
      exact .after .people fun _ => .after (.ensure rfl) fun _ =>
        .after .placement fun _ =>
          .change Store.insertEmployee_unhindered
  | updateEmployee id changes =>
      refine Free.changing ?_ _
      refine .after .people fun _ => .after .visible fun _ =>
        ?_
      dsimp only
      split
      · exact .after .placement fun _ =>
          .change Store.updateEmployee_unhindered
      · exact .change Store.updateEmployee_unhindered
  | createRecord input =>
      refine Free.changing ?_ _
      exact .after .authorize fun _ => .after .requireAny fun _ =>
        .after .shift fun _ => .after .visible fun _ =>
          .after .ownOrAny fun _ => .told
  | updateRecord id changes =>
      refine Free.changing ?_ _
      exact .after .authorize fun _ => .after .requireAny fun _ =>
        .after .visible fun _ => .after .ownOrAny fun _ =>
          .after (.ensure (by decide)) fun _ => .after .shift fun _ =>
            .change Store.updatePendingRecord_unhindered
  | approveRecord id =>
      refine Free.changing ?_ _
      exact .after .authorize fun _ => .after .requireAny fun _ =>
        .after .visible fun _ => .after (.ensure (by decide)) fun _ =>
          .change Store.updatePendingRecord_unhindered
  | rejectRecord id reason =>
      refine Free.changing ?_ _
      exact .after .authorize fun _ => .after .requireAny fun _ =>
        .after .visible fun _ => .after (.ensure (by decide)) fun _ =>
          .change Store.updatePendingRecord_unhindered
  | approveLeave id =>
      refine Free.changing ?_ _
      exact .after .authorize fun _ => .after .requireAny fun _ =>
        .after .visible fun _ => .after (.ensure (by decide)) fun _ =>
          .change Store.approveLeave_unhindered
  | rejectLeave id reason =>
      refine Free.changing ?_ _
      exact .after .authorize fun _ => .after .requireAny fun _ =>
        .after (.ensure rfl) fun _ => .after .visible fun _ =>
          .after (.ensure (by decide)) fun _ =>
            .change Store.recordDecision_unhindered
  | cancelLeave id reason =>
      refine Free.changing ?_ _
      exact .after .authorize fun _ => .after .requireAny fun _ =>
        .after .visible fun _ => .after (.ensure (by decide)) fun _ =>
          .after .ownOrAny fun _ =>
            .change Store.recordDecision_unhindered
  | readBalance id =>
      refine Free.changing ?_ _
      exact .after .authorize fun _ => .after .requireAny fun _ =>
        .after .visible fun _ => .after .ownOrAny fun _ => .told
  | settleAccrual input =>
      refine Free.changing ?_ _
      exact .after .authorize fun _ => .after .requireAny fun _ =>
        .after .settlement fun _ => .after .visible fun _ =>
          .change Store.settleBalance_unhindered
  | previewPayroll input =>
      refine Free.changing ?_ _
      exact .after .authorize fun _ => .after .requireAny fun _ =>
        .after .pricePeriod fun _ => .told
  | previewPayrollWithDeductions input request =>
      refine Free.changing ?_ _
      exact previewPayrollWithDeductions_free
  | confirmRun id =>
      refine Free.changing ?_ _
      exact .after .authorize fun _ => .after .requireAny fun _ =>
        .after .visible fun _ => .after (.ensure (by decide)) fun _ =>
          .change Store.confirmRun_unhindered
  | readProfile id =>
      refine Free.changing ?_ _
      exact .after .authorize fun _ => .after .requireAny fun _ =>
        .after .visible fun _ => .told
  | upsertProfile id input =>
      refine Free.changing ?_ _
      exact .after .authorize fun _ => .after .requireAny fun _ =>
        .after .profile fun _ =>
          .change Store.upsertProfile_unhindered
  | listOrganizations =>
      exact reading_unhindered (Unhindered.people.bind fun _ => .of_ok _) _
  | getOrganization id =>
      exact reading_unhindered
        (Unhindered.people.bind fun _ => .visible) _
  | listEmployees active =>
      exact reading_unhindered (Unhindered.people.bind fun _ => .of_ok _) _
  | getEmployee id =>
      exact reading_unhindered
        (Unhindered.people.bind fun _ => .visible) _
  | listRecords query =>
      refine reading_unhindered ?_ _
      exact Unhindered.authorize.bind fun _ =>
        (Unhindered.ensure rfl).bind fun _ =>
          Unhindered.filter.bind fun _ => .of_ok _
  | listAggregates query =>
      refine reading_unhindered ?_ _
      exact Unhindered.authorize.bind fun _ =>
        (Unhindered.ensure rfl).bind fun _ =>
          Unhindered.filter.bind fun _ => .ofAmount
  | listLeave query =>
      refine reading_unhindered ?_ _
      exact Unhindered.authorize.bind fun _ =>
        (Unhindered.ensure rfl).bind fun _ =>
          Unhindered.filter.bind fun _ => .of_ok _
  | listDecisions id =>
      refine reading_unhindered ?_ _
      exact Unhindered.authorize.bind fun _ =>
        Unhindered.requireAny.bind fun _ =>
          Unhindered.visible.bind fun _ =>
            Unhindered.filter.bind fun _ => .of_ok _
  | listSchedules query =>
      refine reading_unhindered ?_ _
      refine Unhindered.authorize.bind fun _ =>
        (Unhindered.ensure rfl).bind fun _ => ?_
      dsimp only
      split
      · split
        · exact Unhindered.visible.bind fun _ =>
            Unhindered.filter.bind fun _ => .of_ok _
        · exact Unhindered.filter.bind fun _ => .of_ok _
      · exact Unhindered.filter.bind fun _ => .of_ok _
  | listRuns employee state =>
      refine reading_unhindered ?_ _
      exact Unhindered.authorize.bind fun _ =>
        Unhindered.requireAny.bind fun _ => .of_ok _
  | _ =>
      cases other

/-! ## What stands in the way -/

/-- What of an employee stands in the way of a call within a scope, with its
owner: an active request on one of the days, or a schedule in the hours. -/
inductive Hindered (st : Store) (scope : TenantScope) :
    Call → String → Option String → Prop
  | createLeave {input : NewLeave} {employee : Employee} {r : LeaveRequest}
      (found : st.employees.get? input.employee = some employee)
      (visible : scope.permits employee.organization = true)
      (listed : r ∈ st.overlappingLeave employee.id
        (.ofInstants input.start.instant input.finish.instant) none) :
      Hindered st scope (.createLeave input) employee.id r.organization
  | updateLeave {id : String} {changes : LeaveChanges}
      {existing r : LeaveRequest}
      (found : st.leave.get? id = some existing)
      (visible : scope.permits existing.organization = true)
      (listed : r ∈ st.overlappingLeave existing.employee
        (.ofInstants (changes.start.getD existing.start).instant
          (changes.finish.getD existing.finish).instant)
        (some existing.id)) :
      Hindered st scope (.updateLeave id changes) existing.employee
        r.organization
  | createSchedule {input : NewSchedule} {employee : Employee}
      {s : WorkSchedule}
      (found : st.employees.get? input.employee = some employee)
      (visible : scope.permits employee.organization = true)
      (listed : s ∈ st.overlappingSchedules employee.id input.start.instant
        input.finish.instant) :
      Hindered st scope (.createSchedule input) employee.id s.organization

/-- An operation that is refused because of an overlap has passed a check that
looks for none. -/
private theorem passes {x : Outcome β} {f : β → Outcome (Effect α)}
    {fault : Fault} (first : x.Unhindered)
    (refused : (Effect.ofOutcome st (x >>= f)).reply = refuse fault)
    (overlap : fault.isOverlap = true) :
    ∃ b, x = .ok b ∧ (Effect.ofOutcome st (f b)).reply = refuse fault := by
  cases x with
  | error failure =>
      cases refused
      have other := first fault rfl
      rw [overlap] at other
      cases other
  | ok b =>
      exact ⟨b, rfl, refused⟩

/-- Whatever lists nothing passes, and what is behind it decides. -/
private theorem listed_of_refused {γ : Type} {items : List γ} {fault : Fault}
    {conflict : Fault} {effect : Outcome (Effect α)}
    (refused : (Effect.ofOutcome st
      (Outcome.ensure (items.isEmpty = true) conflict >>= fun _ =>
        effect)).reply = refuse fault)
    (overlap : fault.isOverlap = true)
    (free : items = [] → Free st effect) : ∃ item, item ∈ items := by
  by_contra nothing
  have empty : items = [] := by
    rw [List.eq_nil_iff_forall_not_mem]
    exact not_exists.1 nothing
  have passed : Outcome.ensure (items.isEmpty = true) conflict = .ok () :=
    ensure_of (by rw [empty]; rfl)
  rw [passed] at refused
  have other := free empty fault refused
  rw [overlap] at other
  cases other

/-- Who is refused because of an overlap has something in the way. -/
theorem hindered_of_refused {c : Call} {fault : Fault}
    (refused : (c.effect ctx st).reply = refuse fault)
    (overlap : fault.isOverlap = true) :
    ∃ actor scope employee owner, ctx.authorize = .ok (actor, scope) ∧
      c.Hindered st scope employee owner := by
  cases seeks : c.seeksOverlap with
  | false =>
      have other := effect_unhindered seeks fault refused
      rw [overlap] at other
      cases other
  | true =>
    cases c with
    | createLeave input =>
        have refused := refused_of_changing refused
        obtain ⟨⟨actor, scope⟩, authorized, refused⟩ :=
          passes .authorize refused overlap
        obtain ⟨_, _, refused⟩ := passes .requireAny refused overlap
        obtain ⟨days, _, refused⟩ := passes .leaveDays refused overlap
        obtain ⟨employee, seen, refused⟩ := passes .visible refused overlap
        obtain ⟨_, _, refused⟩ := passes .ownOrAny refused overlap
        obtain ⟨found, visible⟩ := TenantScope.visible_eq_ok.1 seen
        obtain ⟨r, listed⟩ :=
          listed_of_refused refused overlap fun _ => .told
        exact ⟨actor, scope, _, _, authorized,
          .createLeave found visible listed⟩
    | updateLeave id changes =>
        have refused := refused_of_changing refused
        obtain ⟨⟨actor, scope⟩, authorized, refused⟩ :=
          passes .authorize refused overlap
        obtain ⟨_, _, refused⟩ := passes .requireAny refused overlap
        obtain ⟨existing, seen, refused⟩ := passes .visible refused overlap
        obtain ⟨_, _, refused⟩ :=
          passes (.ensure (by decide)) refused overlap
        obtain ⟨_, _, refused⟩ := passes .ownOrAny refused overlap
        obtain ⟨days, _, refused⟩ := passes .leaveDays refused overlap
        obtain ⟨found, visible⟩ := TenantScope.visible_eq_ok.1 seen
        obtain ⟨r, listed⟩ := listed_of_refused refused overlap fun _ =>
          .change Store.updatePendingLeave_unhindered
        exact ⟨actor, scope, _, _, authorized,
          .updateLeave found visible listed⟩
    | createSchedule input =>
        have refused := refused_of_changing refused
        obtain ⟨⟨actor, scope⟩, authorized, refused⟩ :=
          passes .authorize refused overlap
        obtain ⟨_, _, refused⟩ := passes .requireAny refused overlap
        obtain ⟨_, _, refused⟩ := passes (.ensure rfl) refused overlap
        obtain ⟨_, _, refused⟩ := passes .breakAndNotes refused overlap
        obtain ⟨employee, seen, refused⟩ := passes .visible refused overlap
        obtain ⟨found, visible⟩ := TenantScope.visible_eq_ok.1 seen
        obtain ⟨s, listed⟩ := listed_of_refused refused overlap fun free =>
          .afterChange (Store.insertSchedule_unhindered free)
            fun _ => Unhindered.ofAmount.bind fun _ => .of_ok _
        exact ⟨actor, scope, _, _, authorized,
          .createSchedule found visible listed⟩
    | _ =>
        cases seeks

end Call
end Workforce
