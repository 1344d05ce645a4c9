import Workforce.Proofs.Run

/-!
# Tenants cannot touch what is not theirs

An actor of an organization, while tenancy is on, changes nothing but what the
organization owns.  The proof has two halves:

* every deed within the scope of an organization writes rows of that
  organization only, each of them new or in the place of a row of the same
  owner (`Call.Does.owned`);
* a table into which such a row is put is confined to the organization
  (`Table.ConfinedTo.putAny`).

The audit entries of such an actor carry the organization as well.
-/

namespace Workforce

/-! ## Tables -/

namespace Table

variable {α : Type} [Keyed α] [Owned α]

/-- Nothing but rows of an organization was added or changed. -/
structure ConfinedTo (home : String) (before after : Table α) : Prop where
  /-- What belongs to others, or to nobody, is as it was. -/
  foreign : ∀ key a, before.get? key = some a →
    Owned.owner a ≠ some home → after.get? key = some a
  /-- What is new or different belongs to the organization and, if it was
  there before, did so before. -/
  own : ∀ key a, after.get? key = some a →
    before.get? key = some a ∨
      (Owned.owner a = some home ∧
        ∀ old, before.get? key = some old → Owned.owner old = some home)

/-- A row, if there is one, that an organization may put into a table: it
belongs to the organization, and so does the row that it replaces. -/
def Admits (t : Table α) (home : String) (row : Option α) : Prop :=
  ∀ a, row = some a →
    Owned.owner a = some home ∧
      ∀ old, t.get? (Keyed.key a) = some old → Owned.owner old = some home

theorem admits_none {t : Table α} {home : String} :
    t.Admits home none := by
  intro a absent
  cases absent

theorem admits_new {t : Table α} {home : String} {a : α}
    (new : t.get? (Keyed.key a) = none)
    (own : Owned.owner a = some home) : t.Admits home (some a) := by
  intro b same
  cases same
  refine ⟨own, ?_⟩
  intro old found
  rw [new] at found
  cases found

theorem admits_replacement {t : Table α} {home key : String} {a existing : α}
    (found : t.get? key = some existing)
    (within : Owned.owner existing = some home)
    (sameKey : Keyed.key a = Keyed.key existing)
    (own : Owned.owner a = some home) : t.Admits home (some a) := by
  intro b same
  cases same
  refine ⟨own, ?_⟩
  intro old foundOld
  rw [sameKey, key_of_get? found, found] at foundOld
  cases foundOld
  exact within

theorem ConfinedTo.refl (home : String) (t : Table α) :
    ConfinedTo home t t where
  foreign := fun _ _ found _ => found
  own := fun _ _ found => Or.inl found

theorem ConfinedTo.putAny {t : Table α} {home : String} {row : Option α}
    (admitted : t.Admits home row) : ConfinedTo home t (t.putAny row) := by
  cases row with
  | none =>
      exact ConfinedTo.refl home t
  | some a =>
      obtain ⟨own, replaced⟩ := admitted a rfl
      refine ⟨?_, ?_⟩
      · intro key b found foreign
        by_cases same : Keyed.key a = key
        · rw [← same] at found
          exact absurd (replaced b found) foreign
        · rw [Table.putAny, get?_put_of_ne t same]
          exact found
      · intro key b found
        by_cases same : Keyed.key a = key
        · subst same
          rw [Table.putAny, get?_put_self] at found
          cases found
          exact Or.inr ⟨own, replaced⟩
        · rw [Table.putAny, get?_put_of_ne t same] at found
          exact Or.inl found

end Table

/-! ## Deeds -/

/-- A write that an organization may make: rows of its own, in the place of
rows of its own, and a decision on a request of its own.  What a write leaves
out is admitted anyway. -/
structure Write.OwnedBy (home : String) (st : Store) (w : Write) :
    Prop where
  record : st.attendance.Admits home w.record := by exact Table.admits_none
  leave : st.leave.Admits home w.leave := by exact Table.admits_none
  schedule : st.schedules.Admits home w.schedule := by
    exact Table.admits_none
  profile : st.profiles.Admits home w.profile := by exact Table.admits_none
  run : st.payroll.Admits home w.run := by exact Table.admits_none
  employee : st.employees.Admits home w.employee := by
    exact Table.admits_none
  organization : st.organizations.Admits home w.organization := by
    exact Table.admits_none
  decision : ∀ d, w.decision = some d →
    ∃ r, st.leave.get? d.request = some r ∧
      r.organization = some home := by
    intro d absent
    cases absent

/-- Within the scope of an organization an employee is placed in it. -/
theorem Service.placement_of_tenant {st : Store} {home : String}
    {requested organization : Option String}
    (placed : placement st (.organization home) requested =
      .ok organization) :
    organization = some home := by
  unfold placement at placed
  split at placed
  · rename_i id asked
    simp only [Outcome.bind_eq_ok, requireOrganization,
      TenantScope.visible_eq_ok, Outcome.pure_eq_ok] at placed
    obtain ⟨o, ⟨_, visible⟩, rfl⟩ := placed
    exact TenantScope.permits_organization.1 visible
  · rename_i nowhere
    cases requested with
    | none =>
        cases nowhere
    | some id =>
        cases nowhere

/-- A draft within the scope of an organization stays with it. -/
private theorem drafted_organization {st : Store} {home : String}
    {d : Store.ProfileDraft} (now : Instant)
    (drafted : d.organization = some home)
    (within : ∀ old, st.profiles.get? d.id = some old →
      old.organization = some home) :
    (st.drafted d now).organization = some home := by
  unfold Store.drafted
  cases found : st.profiles.get? d.id with
  | none =>
      exact drafted
  | some old =>
      exact within old found

private theorem drafted_owned {st : Store} {home : String}
    {d : Store.ProfileDraft} (now : Instant)
    (drafted : d.organization = some home)
    (within : ∀ old, st.profiles.get? d.id = some old →
      old.organization = some home) :
    st.profiles.Admits home (some (st.drafted d now)) := by
  unfold Store.drafted
  cases found : st.profiles.get? d.id with
  | none =>
      exact Table.admits_new found drafted
  | some old =>
      have own := within old found
      have same : d.id = old.id := (Table.key_of_get? found).symm
      exact Table.admits_replacement found own same own

/-- Within the scope of an organization every deed writes only what the
organization owns. -/
theorem Call.Does.owned {ctx : Context} {st : Store} {actor : Actor}
    {home : String} {c : Call} {w : Write} {notice : Notice} {reply : Reply}
    (does : c.Does ctx st actor (.organization home) w notice reply)
    (new : ctx.NewIds st) : w.OwnedBy home st := by
  cases does with
  | createOrganization permitted platform named fresh =>
      -- Organizations are made by the platform only.
      cases platform
  | createEmployee permitted named placed made fresh =>
      subst made
      exact
        { employee := Table.admits_new fresh
            (Service.placement_of_tenant placed) }
  | updateEmployee permitted found visible placed =>
      have within := TenantScope.permits_organization.1 visible
      refine
        { employee := Table.admits_replacement found within rfl ?_ }
      rcases placed with ⟨_, same⟩ | ⟨_, placed⟩
      · exact same.trans within
      · exact Service.placement_of_tenant placed
  | createRecord permitted shift found visible own made =>
      subst made
      exact
        { record := Table.admits_new new.record
            (TenantScope.permits_organization.1 visible) }
  | updateRecord permitted found visible own pending shift =>
      have within := TenantScope.permits_organization.1 visible
      exact { record := Table.admits_replacement found within rfl within }
  | approveRecord permitted found visible pending =>
      have within := TenantScope.permits_organization.1 visible
      exact { record := Table.admits_replacement found within rfl within }
  | rejectRecord permitted found visible pending =>
      have within := TenantScope.permits_organization.1 visible
      exact { record := Table.admits_replacement found within rfl within }
  | createLeave permitted span found visible own made free =>
      subst made
      exact
        { leave := Table.admits_new new.leave
            (TenantScope.permits_organization.1 visible) }
  | updateLeave permitted found visible pending own made span free =>
      subst made
      have within := TenantScope.permits_organization.1 visible
      exact { leave := Table.admits_replacement found within rfl within }
  | approveLeave permitted found visible pending =>
      have within := TenantScope.permits_organization.1 visible
      refine
        { leave := Table.admits_replacement found within rfl within
          decision := ?_ }
      rintro d ⟨⟩
      exact ⟨_, Table.get?_key found, within⟩
  | rejectLeave permitted reasoned found visible pending =>
      have within := TenantScope.permits_organization.1 visible
      refine
        { leave := Table.admits_replacement found within rfl within
          decision := ?_ }
      rintro d ⟨⟩
      exact ⟨_, Table.get?_key found, within⟩
  | cancelLeave permitted found visible pending own =>
      have within := TenantScope.permits_organization.1 visible
      refine
        { leave := Table.admits_replacement found within rfl within
          decision := ?_ }
      rintro d ⟨⟩
      exact ⟨_, Table.get?_key found, within⟩
  | readBalance permitted found visible own =>
      exact { }
  | settleAccrual permitted terms found visible settled =>
      exact { }
  | createSchedule permitted ordered bounded found visible made free =>
      subst made
      exact
        { schedule := Table.admits_new new.schedule
            (TenantScope.permits_organization.1 visible) }
  | previewPayroll permitted price =>
      exact { run := Table.admits_new new.run rfl }
  | previewPayrollWithDeductions permitted enabled profiles price resolved =>
      exact { run := Table.admits_new new.run rfl }
  | confirmRun permitted found visible previewed =>
      have within := TenantScope.permits_organization.1 visible
      exact { run := Table.admits_replacement found within rfl within }
  | readProfile permitted found visible =>
      exact { }
  | upsertProfile permitted valid within made =>
      subst made
      refine { profile := drafted_owned ctx.now rfl ?_ }
      intro old found
      exact TenantScope.permits_organization.1 (within old found)

/-- Within the scope of an organization every deed is told as one about that
organization. -/
theorem Call.Does.told_of_tenant {ctx : Context} {st : Store} {actor : Actor}
    {home : String} {c : Call} {w : Write} {notice : Notice} {reply : Reply}
    (does : c.Does ctx st actor (.organization home) w notice reply) :
    notice.organization = some home := by
  cases does with
  | createOrganization permitted platform named fresh =>
      cases platform
  | createEmployee permitted named placed made fresh =>
      subst made
      exact Service.placement_of_tenant placed
  | updateEmployee permitted found visible placed =>
      rcases placed with ⟨_, same⟩ | ⟨_, placed⟩
      · exact same.trans (TenantScope.permits_organization.1 visible)
      · exact Service.placement_of_tenant placed
  | createRecord permitted shift found visible own made =>
      subst made
      exact TenantScope.permits_organization.1 visible
  | createLeave permitted span found visible own made free =>
      subst made
      exact TenantScope.permits_organization.1 visible
  | updateLeave permitted found visible pending own made span free =>
      subst made
      exact TenantScope.permits_organization.1 visible
  | createSchedule permitted ordered bounded found visible made free =>
      subst made
      exact TenantScope.permits_organization.1 visible
  | previewPayroll permitted price =>
      rfl
  | previewPayrollWithDeductions permitted enabled profiles price resolved =>
      rfl
  | upsertProfile permitted valid within made =>
      subst made
      refine drafted_organization ctx.now rfl ?_
      intro old found
      exact TenantScope.permits_organization.1 (within old found)
  | updateRecord permitted found visible =>
      exact TenantScope.permits_organization.1 visible
  | approveRecord permitted found visible =>
      exact TenantScope.permits_organization.1 visible
  | rejectRecord permitted found visible =>
      exact TenantScope.permits_organization.1 visible
  | approveLeave permitted found visible =>
      exact TenantScope.permits_organization.1 visible
  | rejectLeave permitted reasoned found visible =>
      exact TenantScope.permits_organization.1 visible
  | cancelLeave permitted found visible =>
      exact TenantScope.permits_organization.1 visible
  | readBalance permitted found visible =>
      exact TenantScope.permits_organization.1 visible
  | settleAccrual permitted terms found visible =>
      exact TenantScope.permits_organization.1 visible
  | confirmRun permitted found visible =>
      exact TenantScope.permits_organization.1 visible
  | readProfile permitted found visible =>
      exact TenantScope.permits_organization.1 visible

/-- Whatever a caller of an organization is told of carries the
organization. -/
private theorem notice_of_tenant {ctx : Context} {st : Store} {actor : Actor}
    {home : String} {c : Call} {e : Effect Reply}
    (confined : ctx.ConfinedTo actor home) (comes : c.Comes ctx st e) :
    ∀ n, e.notice = some n → n.organization = some home := by
  cases comes with
  | failed failure =>
      rintro n ⟨⟩
  | looked reply only =>
      rintro n ⟨⟩
  | warned authorized call conflict silent =>
      obtain ⟨_, rfl⟩ := confined.of_authorize authorized
      rintro n ⟨⟩
      rfl
  | done authorized does =>
      obtain ⟨_, rfl⟩ := confined.of_authorize authorized
      rintro n ⟨⟩
      exact does.told_of_tenant
  | halted authorized call does beyond =>
      rintro n ⟨⟩

/-! ## Operations -/

/-- Nothing but what an organization owns was changed, and what was logged is
about the organization. -/
structure Store.ConfinedTo (home : String) (before after : Store) :
    Prop where
  attendance : Table.ConfinedTo home before.attendance after.attendance
  leave : Table.ConfinedTo home before.leave after.leave
  schedules : Table.ConfinedTo home before.schedules after.schedules
  profiles : Table.ConfinedTo home before.profiles after.profiles
  payroll : Table.ConfinedTo home before.payroll after.payroll
  employees : Table.ConfinedTo home before.employees after.employees
  organizations :
    Table.ConfinedTo home before.organizations after.organizations
  decisions : ∃ taken, after.decisions = before.decisions ++ taken ∧
    ∀ d ∈ taken, ∃ r, before.leave.get? d.request = some r ∧
      r.organization = some home
  audit : ∃ entries, after.audit = before.audit ++ entries ∧
    ∀ entry ∈ entries, entry.organization = some home

/-- The tables of a store, as they are after a call and apart from the
logs. -/
private theorem confined_tables {home : String} {st : Store} {w : Write}
    (owned : w.OwnedBy home st) {entries : List AuditEntry}
    (about : ∀ entry ∈ entries, entry.organization = some home)
    (events : List DomainEvent) :
    st.ConfinedTo home
      { st.write w with audit := st.audit ++ entries, events := events } where
  attendance := Table.ConfinedTo.putAny owned.record
  leave := Table.ConfinedTo.putAny owned.leave
  schedules := Table.ConfinedTo.putAny owned.schedule
  profiles := Table.ConfinedTo.putAny owned.profile
  payroll := Table.ConfinedTo.putAny owned.run
  employees := Table.ConfinedTo.putAny owned.employee
  organizations := Table.ConfinedTo.putAny owned.organization
  decisions := by
    refine ⟨w.decision.toList, rfl, ?_⟩
    intro d taken
    exact owned.decision d (Option.mem_toList.1 taken)
  audit := ⟨entries, rfl, about⟩

/-- With tenancy on, an actor of an organization who is not of the platform
changes nothing but what the organization owns, decides on its requests only,
and leaves audit entries that carry it. -/
theorem perform_confined_to_tenant {ctx : Context} {actor : Actor}
    {home : String} (confined : ctx.ConfinedTo actor home) {st : Store}
    (new : ctx.NewIds st) (sinks : Sinks) (c : Call) :
    st.ConfinedTo home (c.perform ctx sinks st).2 := by
  have comes := c.effect_comes ctx st
  have recorded := Effect.record_store (c.effect ctx st) sinks
  have about : ∀ entry ∈ (c.effect ctx st).entries sinks,
      entry.organization = some home := by
    intro entry member
    unfold Effect.entries at member
    split at member
    · obtain ⟨n, told, rfl⟩ :=
        Option.map_eq_some_iff.1 (Option.mem_toList.1 member)
      exact notice_of_tenant confined comes n told
    · cases member
  have unchanged : ∀ {entries events},
      (∀ entry ∈ entries, entry.organization = some home) →
        st.ConfinedTo home
          { st with audit := st.audit ++ entries, events := events } := by
    intro entries events about
    have nothing : Write.OwnedBy home st {} := { }
    have tables := confined_tables nothing about events
    rw [Store.write_nothing] at tables
    exact tables
  unfold Call.perform
  rw [recorded]
  generalize c.effect ctx st = e at comes about
  cases comes with
  | failed failure =>
      exact unchanged about
  | looked reply only =>
      exact unchanged about
  | warned authorized call conflict silent =>
      exact unchanged about
  | done authorized does | halted authorized call does beyond =>
      obtain ⟨_, rfl⟩ := confined.of_authorize authorized
      exact confined_tables (does.owned new) about _

/-! ## Two organizations in one store -/

/-- An employee of an organization. -/
def placedEmployee (id organization : String) : Employee :=
  { id
    organization := some organization
    name := none
    email := none
    active := true
    createdAt := ⟨0⟩
    updatedAt := ⟨0⟩ }

/-- Two organizations with an employee each. -/
def sharedStore : Store :=
  (Store.empty.write
    { organization := some ⟨"ORG-A", "A", ⟨0⟩⟩
      employee := some (placedEmployee "emp-001" "ORG-A") }).write
    { organization := some ⟨"ORG-B", "B", ⟨0⟩⟩
      employee := some (placedEmployee "emp-002" "ORG-B") }

/-- An admin of the first of them. -/
def adminOfA : Actor :=
  { id := "emp-001", role := .admin, organization := some "ORG-A" }

/-- What the admin's calls are given while tenancy is on. -/
def contextOfA : Context :=
  { config := { Config.standard with features := .allOn }
    actor := some adminOfA
    now := ⟨0⟩
    fresh := fun _ => "new" }

theorem contextOfA_confined : contextOfA.ConfinedTo adminOfA "ORG-A" where
  tenancy := rfl
  caller := rfl
  role := by decide
  organization := rfl

theorem contextOfA_newIds : contextOfA.NewIds sharedStore where
  record := rfl
  leave := rfl
  schedule := rfl
  run := rfl
  organization := by decide

/-- The admin changes an employee of their own organization. -/
theorem update_confined_to_organization :
    contextOfA.ConfinedTo adminOfA "ORG-A" ∧
      contextOfA.NewIds sharedStore ∧
      sharedStore.ConfinedTo "ORG-A"
        ((Call.updateEmployee "emp-001"
          ⟨none, some "Kim", none, none⟩).perform contextOfA .working
            sharedStore).2 :=
  ⟨contextOfA_confined, contextOfA_newIds,
    perform_confined_to_tenant contextOfA_confined contextOfA_newIds
      .working _⟩

end Workforce
