import Workforce.Proofs.Tenancy.Confinement

/-!
# What belongs to others is as if it were not there

A call of an actor of an organization may name an entity that is there and
belongs to somebody else.  Then the call fails, and fails as it would if the
entity were not there: with the same reply, the same audit entries and the
same events, and without a change of any table.

The statement is about two runs of one call.  Each operation is a chain of
checks; up to the lookup of the entity the two chains are the same, and there
both end (`Outcome.FailAlike`).  Only two operations look at something else in
the store before: the placement of an employee who is changed, and the
deductions of a priced period.  What they look at is the same in both stores.
-/

namespace Workforce

/-! ## Named entities -/

/-- An entity as calls name it: by its kind and its id. -/
inductive EntityName where
  | record (id : String)
  | leave (id : String)
  | run (id : String)
  | profile (id : String)
  | employee (id : String)
  | organization (id : String)
deriving DecidableEq, Repr

namespace Store

/-- The owner of an entity, if the entity is there. -/
def owner? (st : Store) : EntityName → Option (Option String)
  | .record id => (st.attendance.get? id).map Owned.owner
  | .leave id => (st.leave.get? id).map Owned.owner
  | .run id => (st.payroll.get? id).map Owned.owner
  | .profile id => (st.profiles.get? id).map Owned.owner
  | .employee id => (st.employees.get? id).map Owned.owner
  | .organization id => (st.organizations.get? id).map Owned.owner

/-- The store without an entity. -/
def without (st : Store) : EntityName → Store
  | .record id => { st with attendance := st.attendance.erase id }
  | .leave id => { st with leave := st.leave.erase id }
  | .run id => { st with payroll := st.payroll.erase id }
  | .profile id => { st with profiles := st.profiles.erase id }
  | .employee id => { st with employees := st.employees.erase id }
  | .organization id =>
    { st with organizations := st.organizations.erase id }

end Store

/-- The entities that a call names and that have to be there.  The id under
which an employee or a profile is to be kept is not one of them. -/
def Call.names : Call → List EntityName
  | .getOrganization id => [.organization id]
  | .createEmployee input => input.organization.toList.map .organization
  | .getEmployee id => [.employee id]
  | .updateEmployee id changes =>
    .employee id :: changes.organization.toList.map .organization
  | .createRecord input => [.employee input.employee]
  | .updateRecord id _ => [.record id]
  | .approveRecord id => [.record id]
  | .rejectRecord id _ => [.record id]
  | .createLeave input => [.employee input.employee]
  | .updateLeave id _ => [.leave id]
  | .approveLeave id => [.leave id]
  | .rejectLeave id _ => [.leave id]
  | .cancelLeave id _ => [.leave id]
  | .listDecisions id => [.leave id]
  | .readBalance id => [.employee id]
  | .settleAccrual input => [.employee input.employee]
  | .createSchedule input => [.employee input.employee]
  | .listSchedules query => query.employee.toList.map .employee
  | .previewPayroll input => input.employee.toList.map .employee
  | .previewPayrollWithDeductions input request =>
    input.employee.toList.map .employee ++
      request.profileId.toList.map .profile
  | .confirmRun id => [.run id]
  | .readProfile id => [.profile id]
  | _ => []

/-- An optional argument is named if it is given. -/
theorem Call.mem_names_of_option {argument : Option String}
    {kind : String → EntityName} {x : EntityName}
    (named : x ∈ argument.toList.map kind) :
    ∃ id, argument = some id ∧ x = kind id := by
  obtain ⟨id, given, rfl⟩ := List.mem_map.1 named
  exact ⟨id, Option.mem_toList.1 given, rfl⟩

/-- Whether a table has nothing under a key that an organization could see. -/
def Table.Hides {α : Type} [Keyed α] [Owned α] (t : Table α)
    (home key : String) : Prop :=
  ∀ a, t.get? key = some a → Owned.owner a ≠ some home

theorem Table.hides_erase {α : Type} [Keyed α] [Owned α] (t : Table α)
    (home key : String) : (t.erase key).Hides home key := by
  intro a found
  rw [Table.get?_erase, if_pos rfl] at found
  cases found

theorem Table.hides_of_foreign {α : Type} [Keyed α] [Owned α] {t : Table α}
    {home key : String} {owner : Option String}
    (found : (t.get? key).map Owned.owner = some owner)
    (foreign : owner ≠ some home) : t.Hides home key := by
  intro a here
  rw [here] at found
  cases found
  exact foreign

namespace Store

/-- Whether a store has nothing under a name that an organization could
see. -/
def Hides (st : Store) (home : String) : EntityName → Prop
  | .record id => st.attendance.Hides home id
  | .leave id => st.leave.Hides home id
  | .run id => st.payroll.Hides home id
  | .profile id => st.profiles.Hides home id
  | .employee id => st.employees.Hides home id
  | .organization id => st.organizations.Hides home id

theorem hides_without (st : Store) (home : String) (x : EntityName) :
    (st.without x).Hides home x := by
  cases x with
  | record id => exact Table.hides_erase st.attendance home id
  | leave id => exact Table.hides_erase st.leave home id
  | run id => exact Table.hides_erase st.payroll home id
  | profile id => exact Table.hides_erase st.profiles home id
  | employee id => exact Table.hides_erase st.employees home id
  | organization id => exact Table.hides_erase st.organizations home id

/-- What belongs to others is hidden. -/
theorem hides_of_foreign {st : Store} {home : String} {x : EntityName}
    {owner : Option String} (found : st.owner? x = some owner)
    (foreign : owner ≠ some home) : st.Hides home x := by
  cases x with
  | record id => exact Table.hides_of_foreign found foreign
  | leave id => exact Table.hides_of_foreign found foreign
  | run id => exact Table.hides_of_foreign found foreign
  | profile id => exact Table.hides_of_foreign found foreign
  | employee id => exact Table.hides_of_foreign found foreign
  | organization id => exact Table.hides_of_foreign found foreign

end Store

/-! ## Failing alike -/

namespace Outcome

variable {α β : Type}

/-- Two outcomes are failures, and the same. -/
def FailAlike (first second : Outcome α) : Prop :=
  ∃ failure, first = .error failure ∧ second = .error failure

theorem FailAlike.bind {x y : Outcome α} (alike : FailAlike x y)
    (f g : α → Outcome β) : FailAlike (x >>= f) (y >>= g) := by
  obtain ⟨failure, rfl, rfl⟩ := alike
  exact ⟨failure, rfl, rfl⟩

/-- Two chains fail alike if, after the same check, they go on to do so. -/
theorem FailAlike.after {x : Outcome Unit} {f g : Unit → Outcome β}
    (rest : FailAlike (f ()) (g ())) : FailAlike (x >>= f) (x >>= g) := by
  cases x with
  | error failure =>
      exact ⟨failure, rfl, rfl⟩
  | ok u =>
      exact rest

/-- Two chains fail alike if they begin with the same check and, where it
passes, go on to fail alike. -/
theorem failAlike_after {x : Outcome α} {f g : α → Outcome β}
    (rest : ∀ a, x = .ok a → FailAlike (f a) (g a)) :
    FailAlike (x >>= f) (x >>= g) := by
  cases x with
  | error failure =>
      exact ⟨failure, rfl, rfl⟩
  | ok a =>
      exact rest a rfl

end Outcome

open Outcome (FailAlike failAlike_after)

theorem TenantScope.visible_alike {α : Type} [Keyed α] [Owned α]
    {t u : Table α} {home key : String} (hidden : t.Hides home key)
    (absent : u.Hides home key) (message : String) :
    FailAlike ((TenantScope.organization home).visible (t.get? key) message)
      ((TenantScope.organization home).visible (u.get? key) message) := by
  have outside : ∀ {v : Table α}, v.Hides home key →
      ∀ a, v.get? key = some a →
        (TenantScope.organization home).permits (Owned.owner a) = false := by
    intro v hides a found
    rw [Bool.eq_false_iff, Ne, TenantScope.permits_organization]
    exact hides a found
  rw [TenantScope.visible_of_hidden (outside hidden),
    TenantScope.visible_of_hidden (outside absent)]
  exact ⟨_, rfl, rfl⟩

/-! ## Operations on two stores -/

namespace Service

section Alike

variable {ctx : Context} {actor : Actor} {home : String}

/-- A caller of an organization goes on within its scope, or fails. -/
private theorem scoped_alike {α : Type} {f g : Actor × TenantScope → Outcome α}
    (confined : ctx.ConfinedTo actor home)
    (rest : FailAlike (f (actor, .organization home))
      (g (actor, .organization home))) :
    FailAlike (ctx.authorize >>= f) (ctx.authorize >>= g) := by
  apply failAlike_after
  rintro ⟨caller, scope⟩ authorized
  obtain ⟨rfl, rfl⟩ := confined.of_authorize authorized
  exact rest

private theorem people_alike {α : Type} {f g : Actor × TenantScope → Outcome α}
    {p : Permission} {deed : String} (confined : ctx.ConfinedTo actor home)
    (rest : FailAlike (f (actor, .organization home))
      (g (actor, .organization home))) :
    FailAlike (authorizePeople ctx p deed >>= f)
      (authorizePeople ctx p deed >>= g) := by
  apply failAlike_after
  rintro ⟨caller, scope⟩ authorized
  obtain ⟨rfl, rfl⟩ :=
    confined.of_authorize (Call.authorizePeople_eq_ok.1 authorized).1
  exact rest

variable {st other : Store} {id : String}

/-- Nobody is placed in an organization that cannot be seen. -/
private theorem placement_alike (hidden : st.organizations.Hides home id)
    (absent : other.organizations.Hides home id) :
    FailAlike (placement st (.organization home) (some id))
      (placement other (.organization home) (some id)) :=
  (TenantScope.visible_alike hidden absent _).bind _ _

/-- Nothing is priced for an employee who cannot be seen. -/
private theorem pricePeriod_alike {input : PreviewInput}
    (asked : input.employee = some id) (hidden : st.employees.Hides home id)
    (absent : other.employees.Hides home id) :
    FailAlike (pricePeriod ctx st (.organization home) input)
      (pricePeriod ctx other (.organization home) input) := by
  apply FailAlike.after
  apply FailAlike.after
  apply FailAlike.after
  simp only [asked]
  exact (TenantScope.visible_alike hidden absent _).bind _ _

/-- A price depends on the employees and their records. -/
private theorem pricePeriod_congr {scope : TenantScope}
    (employees : other.employees = st.employees)
    (records : other.attendance = st.attendance) (input : PreviewInput) :
    pricePeriod ctx other scope input = pricePeriod ctx st scope input := by
  unfold pricePeriod requireEmployee Store.listRecords
  rw [employees, records]

/-- Nothing is deducted by a profile that cannot be seen. -/
private theorem previewNet_alike {request : DeductionRequest}
    (asked : request.profileId = some id)
    (hidden : st.profiles.Hides home id)
    (absent : other.profiles.Hides home id)
    (employees : other.employees = st.employees)
    (records : other.attendance = st.attendance) (input : PreviewInput) :
    FailAlike (previewNet ctx st actor (.organization home) input request)
      (previewNet ctx other actor (.organization home) input request) := by
  have nothing : ∀ {profiles : Table DeductionProfile},
      profiles.Hides home id →
        ((request.profileId.bind profiles.get?).filter fun p =>
          (TenantScope.organization home).permits p.organization) = none := by
    intro profiles hides
    rw [asked, Option.bind_some, Option.filter_eq_none_iff]
    intro p found
    rw [TenantScope.permits_organization]
    exact hides p found
  unfold previewNet
  rw [pricePeriod_congr employees records, nothing hidden, nothing absent]
  apply failAlike_after
  intro priced price
  cases request with
  | manual amounts =>
      cases asked
  | profile pid version =>
      exact ⟨_, rfl, rfl⟩

variable (confined : ctx.ConfinedTo actor home)

include confined

/-! ### Records -/

private theorem updateRecord_alike (hidden : st.attendance.Hides home id)
    (absent : other.attendance.Hides home id) (changes : RecordChanges) :
    FailAlike (updateRecord ctx st id changes)
      (updateRecord ctx other id changes) := by
  apply scoped_alike confined
  apply FailAlike.after
  exact (TenantScope.visible_alike hidden absent _).bind _ _

private theorem approveRecord_alike (hidden : st.attendance.Hides home id)
    (absent : other.attendance.Hides home id) :
    FailAlike (approveRecord ctx st id) (approveRecord ctx other id) := by
  apply scoped_alike confined
  apply FailAlike.after
  exact (TenantScope.visible_alike hidden absent _).bind _ _

private theorem rejectRecord_alike (hidden : st.attendance.Hides home id)
    (absent : other.attendance.Hides home id) (reason : Option String) :
    FailAlike (rejectRecord ctx st id reason)
      (rejectRecord ctx other id reason) := by
  apply scoped_alike confined
  apply FailAlike.after
  exact (TenantScope.visible_alike hidden absent _).bind _ _

/-! ### Leave requests -/

private theorem updateLeave_alike (hidden : st.leave.Hides home id)
    (absent : other.leave.Hides home id) (changes : LeaveChanges) :
    FailAlike (updateLeave ctx st id changes)
      (updateLeave ctx other id changes) := by
  apply scoped_alike confined
  apply FailAlike.after
  exact (TenantScope.visible_alike hidden absent _).bind _ _

private theorem approveLeave_alike (hidden : st.leave.Hides home id)
    (absent : other.leave.Hides home id) :
    FailAlike (approveLeave ctx st id) (approveLeave ctx other id) := by
  apply scoped_alike confined
  apply FailAlike.after
  exact (TenantScope.visible_alike hidden absent _).bind _ _

private theorem rejectLeave_alike (hidden : st.leave.Hides home id)
    (absent : other.leave.Hides home id) (reason : String) :
    FailAlike (rejectLeave ctx st id reason)
      (rejectLeave ctx other id reason) := by
  apply scoped_alike confined
  apply FailAlike.after
  apply FailAlike.after
  exact (TenantScope.visible_alike hidden absent _).bind _ _

private theorem cancelLeave_alike (hidden : st.leave.Hides home id)
    (absent : other.leave.Hides home id) (reason : Option String) :
    FailAlike (cancelLeave ctx st id reason)
      (cancelLeave ctx other id reason) := by
  apply scoped_alike confined
  apply FailAlike.after
  exact (TenantScope.visible_alike hidden absent _).bind _ _

private theorem listDecisions_alike (hidden : st.leave.Hides home id)
    (absent : other.leave.Hides home id) :
    FailAlike (listDecisions ctx st id) (listDecisions ctx other id) := by
  apply scoped_alike confined
  apply FailAlike.after
  exact (TenantScope.visible_alike hidden absent _).bind _ _

/-! ### Payroll runs and profiles -/

private theorem confirmRun_alike (hidden : st.payroll.Hides home id)
    (absent : other.payroll.Hides home id) :
    FailAlike (confirmRun ctx st id) (confirmRun ctx other id) := by
  apply scoped_alike confined
  apply FailAlike.after
  exact (TenantScope.visible_alike hidden absent _).bind _ _

private theorem readProfile_alike (hidden : st.profiles.Hides home id)
    (absent : other.profiles.Hides home id) :
    FailAlike (readProfile ctx st id) (readProfile ctx other id) := by
  apply scoped_alike confined
  apply FailAlike.after
  exact (TenantScope.visible_alike hidden absent _).bind _ _

/-! ### Employees -/

private theorem getEmployee_alike (hidden : st.employees.Hides home id)
    (absent : other.employees.Hides home id) :
    FailAlike (getEmployee ctx st id) (getEmployee ctx other id) := by
  apply people_alike confined
  exact TenantScope.visible_alike hidden absent _

private theorem updateEmployee_alike (hidden : st.employees.Hides home id)
    (absent : other.employees.Hides home id) (changes : EmployeeChanges) :
    FailAlike (updateEmployee ctx st id changes)
      (updateEmployee ctx other id changes) := by
  apply people_alike confined
  exact (TenantScope.visible_alike hidden absent _).bind _ _

private theorem createRecord_alike {input : NewRecord}
    (hidden : st.employees.Hides home input.employee)
    (absent : other.employees.Hides home input.employee) :
    FailAlike (createRecord ctx st input) (createRecord ctx other input) := by
  apply scoped_alike confined
  apply FailAlike.after
  apply FailAlike.after
  exact (TenantScope.visible_alike hidden absent _).bind _ _

private theorem createLeave_alike {input : NewLeave}
    (hidden : st.employees.Hides home input.employee)
    (absent : other.employees.Hides home input.employee) :
    FailAlike (createLeave ctx st input) (createLeave ctx other input) := by
  apply scoped_alike confined
  apply FailAlike.after
  apply failAlike_after
  intro days counted
  exact (TenantScope.visible_alike hidden absent _).bind _ _

private theorem readBalance_alike (hidden : st.employees.Hides home id)
    (absent : other.employees.Hides home id) :
    FailAlike (readBalance ctx st id) (readBalance ctx other id) := by
  apply scoped_alike confined
  apply FailAlike.after
  exact (TenantScope.visible_alike hidden absent _).bind _ _

private theorem settleAccrual_alike {input : AccrualInput}
    (hidden : st.employees.Hides home input.employee)
    (absent : other.employees.Hides home input.employee) :
    FailAlike (settleAccrual ctx st input)
      (settleAccrual ctx other input) := by
  apply scoped_alike confined
  apply FailAlike.after
  apply failAlike_after
  intro terms accepted
  exact (TenantScope.visible_alike hidden absent _).bind _ _

private theorem createSchedule_alike {input : NewSchedule}
    (hidden : st.employees.Hides home input.employee)
    (absent : other.employees.Hides home input.employee) :
    FailAlike (createSchedule ctx st input)
      (createSchedule ctx other input) := by
  apply scoped_alike confined
  apply FailAlike.after
  apply FailAlike.after
  apply FailAlike.after
  exact (TenantScope.visible_alike hidden absent _).bind _ _

private theorem listSchedules_alike {query : ScheduleQuery}
    (asked : query.employee = some id) (hidden : st.employees.Hides home id)
    (absent : other.employees.Hides home id) :
    FailAlike (listSchedules ctx st query)
      (listSchedules ctx other query) := by
  apply scoped_alike confined
  apply FailAlike.after
  simp only [asked]
  exact (TenantScope.visible_alike hidden absent _).bind _ _

/-! ### Organizations -/

private theorem getOrganization_alike (hidden : st.organizations.Hides home id)
    (absent : other.organizations.Hides home id) :
    FailAlike (getOrganization ctx st id) (getOrganization ctx other id) := by
  apply people_alike confined
  exact TenantScope.visible_alike hidden absent _

private theorem createEmployee_alike {input : NewEmployee}
    (asked : input.organization = some id)
    (hidden : st.organizations.Hides home id)
    (absent : other.organizations.Hides home id) :
    FailAlike (createEmployee ctx st input)
      (createEmployee ctx other input) := by
  apply people_alike confined
  apply FailAlike.after
  rw [asked]
  exact (placement_alike hidden absent).bind _ _

private theorem transferEmployee_alike {changes : EmployeeChanges}
    (asked : changes.organization = some id)
    (hidden : st.organizations.Hides home id)
    (absent : other.organizations.Hides home id)
    (employees : other.employees = st.employees) (employee : String) :
    FailAlike (updateEmployee ctx st employee changes)
      (updateEmployee ctx other employee changes) := by
  apply people_alike confined
  have sameLookup : ∀ scope : TenantScope,
      requireEmployee other scope employee =
        requireEmployee st scope employee := by
    intro scope
    unfold requireEmployee
    rw [employees]
  simp only [asked, sameLookup]
  apply failAlike_after
  intro existing found
  exact (placement_alike hidden absent).bind _ _

/-! ### Previews -/

private theorem previewPayroll_alike {input : PreviewInput}
    (asked : input.employee = some id) (hidden : st.employees.Hides home id)
    (absent : other.employees.Hides home id) :
    FailAlike (previewPayroll ctx st input)
      (previewPayroll ctx other input) := by
  apply scoped_alike confined
  apply FailAlike.after
  exact (pricePeriod_alike asked hidden absent).bind _ _

end Alike

end Service

/-! ## Effects on two stores -/

/-- Two effects that leave their stores as they are, tell the same and fail in
the same way. -/
def Effect.FailAlike {α : Type} (st other : Store) (e f : Effect α) : Prop :=
  ∃ notice failure,
    e = ⟨st, notice, .error failure⟩ ∧ f = ⟨other, notice, .error failure⟩

namespace Call

open Service

variable {α : Type} {st other : Store}

private theorem changing_alike {x y : Outcome (Effect α)}
    (alike : FailAlike x y) (reply : α → Reply) :
    Effect.FailAlike st other (changing st x reply)
      (changing other y reply) := by
  obtain ⟨failure, rfl, rfl⟩ := alike
  exact ⟨none, failure, rfl, rfl⟩

private theorem reading_alike {x y : Outcome α} (alike : FailAlike x y)
    (reply : α → Reply) :
    Effect.FailAlike st other (reading st x reply)
      (reading other y reply) := by
  obtain ⟨failure, rfl, rfl⟩ := alike
  exact ⟨none, failure, rfl, rfl⟩

/-- That a feature is off is told before anything is looked up, and a conflict
is told in the same words on both stores. -/
private theorem previewPayrollWithDeductions_alike {ctx : Context}
    {actor : Actor} {home : String} (confined : ctx.ConfinedTo actor home)
    {input : PreviewInput} {request : DeductionRequest}
    (net : FailAlike
      (previewNet ctx st actor (.organization home) input request)
      (previewNet ctx other actor (.organization home) input request)) :
    Effect.FailAlike st other
      (changing st
        (Service.previewPayrollWithDeductions ctx st input request) .preview)
      (changing other
        (Service.previewPayrollWithDeductions ctx other input request)
        .preview) := by
  unfold Service.previewPayrollWithDeductions
  cases authorized : ctx.authorize with
  | error failure =>
      exact ⟨none, failure, rfl, rfl⟩
  | ok authority =>
      obtain ⟨caller, scope⟩ := authority
      obtain ⟨rfl, rfl⟩ := confined.of_authorize authorized
      simp only [Outcome.ok_bind]
      cases permitted : requirePreviewer caller with
      | error failure =>
          exact ⟨none, failure, rfl, rfl⟩
      | ok u =>
          simp only [Outcome.ok_bind]
          obtain ⟨failure, first, second⟩ := net
          rw [first, second]
          -- First the feature flags, then the kind of failure.
          split
          · exact ⟨_, _, rfl, rfl⟩
          · split
            · exact ⟨_, _, rfl, rfl⟩
            · cases failure with
              | overflow cause =>
                  exact ⟨none, _, rfl, rfl⟩
              | refused fault =>
                  cases conflict : fault.isConflict with
                  | false =>
                      simp only [conflict]
                      exact ⟨none, _, rfl, rfl⟩
                  | true =>
                      simp only [conflict]
                      exact ⟨_, _, rfl, rfl⟩

variable {ctx : Context} {actor : Actor} {home : String}

/-- A call that names what its caller cannot see fails, and fails alike on the
store without it. -/
theorem effect_alike (confined : ctx.ConfinedTo actor home) {c : Call}
    {x : EntityName} (named : x ∈ c.names) {owner : Option String}
    (found : st.owner? x = some owner) (foreign : owner ≠ some home) :
    Effect.FailAlike st (st.without x) (c.effect ctx st)
      (c.effect ctx (st.without x)) := by
  have hidden : st.Hides home x := Store.hides_of_foreign found foreign
  have absent : (st.without x).Hides home x := Store.hides_without st home x
  cases c with
  | getOrganization id =>
      obtain rfl := List.mem_singleton.1 named
      exact reading_alike (getOrganization_alike confined hidden absent) _
  | createEmployee input =>
      obtain ⟨id, asked, rfl⟩ := mem_names_of_option named
      exact changing_alike
        (createEmployee_alike confined asked hidden absent) _
  | getEmployee id =>
      obtain rfl := List.mem_singleton.1 named
      exact reading_alike (getEmployee_alike confined hidden absent) _
  | updateEmployee id changes =>
      rcases List.mem_cons.1 named with rfl | target
      · exact changing_alike
          (updateEmployee_alike confined hidden absent changes) _
      · obtain ⟨id, asked, rfl⟩ := mem_names_of_option target
        exact changing_alike
          (transferEmployee_alike confined asked hidden absent rfl _) _
  | createRecord input =>
      obtain rfl := List.mem_singleton.1 named
      exact changing_alike (createRecord_alike confined hidden absent) _
  | updateRecord id changes =>
      obtain rfl := List.mem_singleton.1 named
      exact changing_alike
        (updateRecord_alike confined hidden absent changes) _
  | approveRecord id =>
      obtain rfl := List.mem_singleton.1 named
      exact changing_alike (approveRecord_alike confined hidden absent) _
  | rejectRecord id reason =>
      obtain rfl := List.mem_singleton.1 named
      exact changing_alike
        (rejectRecord_alike confined hidden absent reason) _
  | createLeave input =>
      obtain rfl := List.mem_singleton.1 named
      exact changing_alike (createLeave_alike confined hidden absent) _
  | updateLeave id changes =>
      obtain rfl := List.mem_singleton.1 named
      exact changing_alike
        (updateLeave_alike confined hidden absent changes) _
  | approveLeave id =>
      obtain rfl := List.mem_singleton.1 named
      exact changing_alike (approveLeave_alike confined hidden absent) _
  | rejectLeave id reason =>
      obtain rfl := List.mem_singleton.1 named
      exact changing_alike
        (rejectLeave_alike confined hidden absent reason) _
  | cancelLeave id reason =>
      obtain rfl := List.mem_singleton.1 named
      exact changing_alike
        (cancelLeave_alike confined hidden absent reason) _
  | listDecisions id =>
      obtain rfl := List.mem_singleton.1 named
      exact reading_alike (listDecisions_alike confined hidden absent) _
  | readBalance id =>
      obtain rfl := List.mem_singleton.1 named
      exact changing_alike (readBalance_alike confined hidden absent) _
  | settleAccrual input =>
      obtain rfl := List.mem_singleton.1 named
      exact changing_alike (settleAccrual_alike confined hidden absent) _
  | createSchedule input =>
      obtain rfl := List.mem_singleton.1 named
      exact changing_alike (createSchedule_alike confined hidden absent) _
  | listSchedules query =>
      obtain ⟨id, asked, rfl⟩ := mem_names_of_option named
      exact reading_alike
        (listSchedules_alike confined asked hidden absent) _
  | previewPayroll input =>
      obtain ⟨id, asked, rfl⟩ := mem_names_of_option named
      exact changing_alike
        (previewPayroll_alike confined asked hidden absent) _
  | previewPayrollWithDeductions input request =>
      apply previewPayrollWithDeductions_alike confined
      rcases List.mem_append.1 named with employee | profile
      · obtain ⟨id, asked, rfl⟩ := mem_names_of_option employee
        exact (pricePeriod_alike asked hidden absent).bind _ _
      · obtain ⟨id, asked, rfl⟩ := mem_names_of_option profile
        exact previewNet_alike asked hidden absent rfl rfl input
  | confirmRun id =>
      obtain rfl := List.mem_singleton.1 named
      exact changing_alike (confirmRun_alike confined hidden absent) _
  | readProfile id =>
      obtain rfl := List.mem_singleton.1 named
      exact changing_alike (readProfile_alike confined hidden absent) _
  -- The others name nothing that has to be there.
  | createOrganization name => cases named
  | listOrganizations => cases named
  | listEmployees active => cases named
  | listRecords query => cases named
  | listAggregates query => cases named
  | listLeave query => cases named
  | listRuns employee state => cases named
  | upsertProfile id input => cases named

end Call

/-! ## Calls on two stores -/

/-- What belongs to others is as if it were not there.  A call that names such
an entity fails; on the store without the entity it fails in the same way and
leaves the same in the logs; and neither call changes anything else.  A price
that no decimal can hold is a failure as well, and the same one. -/
theorem perform_hides_foreign {ctx : Context} {actor : Actor} {home : String}
    (confined : ctx.ConfinedTo actor home) {st : Store} {c : Call}
    {x : EntityName} (named : x ∈ c.names) {owner : Option String}
    (found : st.owner? x = some owner) (foreign : owner ≠ some home)
    (sinks : Sinks) :
    ∃ failure entries events,
      c.perform ctx sinks st =
        (.error failure,
          { st with
            audit := st.audit ++ entries
            events := st.events ++ events }) ∧
      c.perform ctx sinks (st.without x) =
        (.error failure,
          { st.without x with
            audit := (st.without x).audit ++ entries
            events := (st.without x).events ++ events }) := by
  obtain ⟨notice, failure, here, there⟩ :=
    Call.effect_alike confined named found foreign
  let failing (s : Store) : Effect Reply := ⟨s, notice, .error failure⟩
  obtain ⟨told, answered⟩ :=
    Effect.answered_of_error (e := failing st) rfl sinks
  refine ⟨told, (failing st).entries sinks, (failing st).published sinks,
    ?_, ?_⟩
  · unfold Call.perform
    rw [here]
    exact Prod.ext ((Effect.record_reply (failing st) sinks).trans answered)
      (Effect.record_store (failing st) sinks)
  · unfold Call.perform
    rw [there]
    exact Prod.ext
      ((Effect.record_reply (failing (st.without x)) sinks).trans answered)
      (Effect.record_store (failing (st.without x)) sinks)

/-- To move an employee into somebody else's organization is to move them into
one that does not exist. -/
theorem transfer_hides_organization :
    EntityName.organization "ORG-B" ∈
        (Call.updateEmployee "emp-001"
          ⟨some "ORG-B", none, none, none⟩).names ∧
      ∃ failure entries events,
        (Call.updateEmployee "emp-001"
          ⟨some "ORG-B", none, none, none⟩).perform contextOfA .working
            sharedStore =
          (.error failure,
            { sharedStore with
              audit := sharedStore.audit ++ entries
              events := sharedStore.events ++ events }) ∧
        (Call.updateEmployee "emp-001"
          ⟨some "ORG-B", none, none, none⟩).perform contextOfA .working
            (sharedStore.without (.organization "ORG-B")) =
          (.error failure,
            { sharedStore.without (.organization "ORG-B") with
              audit := sharedStore.audit ++ entries
              events := sharedStore.events ++ events }) :=
  ⟨by decide,
    perform_hides_foreign contextOfA_confined (by decide)
      (show sharedStore.owner? (.organization "ORG-B") =
        some (some "ORG-B") by decide) (by decide) .working⟩

end Workforce
