import Workforce.Proofs.Run
import Workforce.Proofs.Sorting

/-!
# What employees can do

An actor in the role of an employee writes records and requests of their own
and withdraws requests of their own.  This module shows that nothing else
comes of any call of theirs, whatever its arguments are, with tenancy or
without, and whether or not the sinks are in order:

* records and requests that are added or changed are theirs, and a row that is
  changed was theirs and pending before; a record stays pending, and a request
  stays pending or is withdrawn;
* the decisions that are added withdraw requests of theirs;
* a ledger is at most opened, and it is theirs;
* everything else is as it was;
* whatever is replied is theirs.

Whoever holds no permission but those of the role fails at the first check of
every other operation.  What is left are seven operations that compare an
owner with the actor, and in each the owner is that of the stored row.
-/

namespace Workforce

/-! ## Tables -/

/-- Every row is as it was, or an allowed change of what was there. -/
def Table.ChangesBy {α : Type} [Keyed α] (allowed : Option α → α → Prop)
    (before after : Table α) : Prop :=
  ∀ key, after.get? key = before.get? key ∨
    ∃ a, after.get? key = some a ∧ allowed (before.get? key) a

theorem Table.changesBy_putAny {α : Type} [Keyed α]
    {allowed : Option α → α → Prop} {t : Table α} {row : Option α}
    (change : ∀ a, row = some a →
      t.get? (Keyed.key a) = some a ∨ allowed (t.get? (Keyed.key a)) a) :
    t.ChangesBy allowed (t.putAny row) := by
  intro key
  cases row with
  | none =>
      exact Or.inl rfl
  | some a =>
      by_cases here : Keyed.key a = key
      · subst here
        rw [putAny, get?_put_self]
        rcases change a rfl with same | allowed
        · exact Or.inl same.symm
        · exact Or.inr ⟨a, rfl, allowed⟩
      · exact Or.inl (get?_put_of_ne t here)

/-! ## What is an employee's own -/

/-- A pending record of an employee, in the place of a pending one of theirs
or of none. -/
def AttendanceRecord.OwnEdit (employee : String)
    (old : Option AttendanceRecord) (r : AttendanceRecord) : Prop :=
  r.employee = employee ∧ r.state = .pending ∧
    ∀ o, old = some o → o.employee = employee ∧ o.state = .pending

/-- A request of an employee, in the place of a pending one of theirs or of
none: it is pending, or was withdrawn. -/
def LeaveRequest.OwnEdit (employee : String) (old : Option LeaveRequest)
    (r : LeaveRequest) : Prop :=
  r.employee = employee ∧
    (r.state = .pending ∨ r.state = .canceled ∧ old.isSome = true) ∧
    ∀ o, old = some o → o.employee = employee ∧ o.state = .pending

/-- A ledger of an employee who had none, with nothing used yet. -/
def LeaveBalance.OwnStart (employee : String) (old : Option LeaveBalance)
    (b : LeaveBalance) : Prop :=
  old = none ∧ b.employee = employee ∧ b.usedDays = 0

/-- A decision that withdraws a request of an employee. -/
def LeaveDecision.Withdraws (employee : String) (st : Store)
    (d : LeaveDecision) : Prop :=
  d.action = .canceled ∧
    ∃ r, st.leave.get? d.request = some r ∧ r.employee = employee

/-- A store that differs from another only by what an employee may do. -/
structure Store.LeftBy (employee : String) (before after : Store) :
    Prop where
  records : before.attendance.ChangesBy (AttendanceRecord.OwnEdit employee)
    after.attendance
  leave : before.leave.ChangesBy (LeaveRequest.OwnEdit employee) after.leave
  decisions : ∃ taken, after.decisions = before.decisions ++ taken ∧
    ∀ d ∈ taken, d.Withdraws employee before
  balances : before.balances.ChangesBy (LeaveBalance.OwnStart employee)
    after.balances
  schedules : after.schedules = before.schedules
  profiles : after.profiles = before.profiles
  payroll : after.payroll = before.payroll
  employees : after.employees = before.employees
  organizations : after.organizations = before.organizations

/-- A reply that tells an employee of nothing but what is theirs. -/
def Reply.OwnedBy (employee : String) (st : Store) : Reply → Prop
  | .record r => r.employee = employee
  | .records rs => ∀ r ∈ rs, r.employee = employee
  | .aggregates rows => ∀ row ∈ rows, row.employee = employee
  | .leave r => r.employee = employee
  | .leaves rs => ∀ r ∈ rs, r.employee = employee
  | .decisions ds => ∀ d ∈ ds,
    ∃ r, st.leave.get? d.request = some r ∧ r.employee = employee
  | .balance b => b.employee = employee
  | .schedule s => s.employee = employee
  | .schedules rows => ∀ s ∈ rows, s.employee = employee
  | _ => False

/-- A write that an employee may make. -/
structure Write.MadeBy (employee : String) (st : Store) (w : Write) :
    Prop where
  record : ∀ r, w.record = some r →
    AttendanceRecord.OwnEdit employee (st.attendance.get? r.id) r := by simp
  leave : ∀ r, w.leave = some r →
    LeaveRequest.OwnEdit employee (st.leave.get? r.id) r := by simp
  decision : ∀ d, w.decision = some d → d.Withdraws employee st := by simp
  balance : ∀ b, w.balance = some b →
    st.balances.get? b.employee = some b ∨
      LeaveBalance.OwnStart employee (st.balances.get? b.employee) b := by
    simp
  schedule : w.schedule = none := by rfl
  profile : w.profile = none := by rfl
  run : w.run = none := by rfl
  employee : w.employee = none := by rfl
  organization : w.organization = none := by rfl

theorem Store.leftBy_write {employee : String} {st : Store} {w : Write}
    (made : w.MadeBy employee st) : st.LeftBy employee (st.write w) where
  records := Table.changesBy_putAny fun r row => .inr (made.record r row)
  leave := Table.changesBy_putAny fun r row => .inr (made.leave r row)
  decisions :=
    ⟨w.decision.toList, rfl, fun d member =>
      made.decision d (Option.mem_toList.1 member)⟩
  balances := Table.changesBy_putAny made.balance
  schedules := by rw [write, made.schedule]; rfl
  profiles := by rw [write, made.profile]; rfl
  payroll := by rw [write, made.run]; rfl
  employees := by rw [write, made.employee]; rfl
  organizations := by rw [write, made.organization]; rfl

/-! ## What the role permits -/

section Role

variable {actor : Actor}

private theorem may_eq (role : actor.role = .employee) (p : Permission) :
    actor.may p = Role.employee.permissions.contains p := by
  rw [Actor.may, role]

/-- Whoever may act on what is their own alone is the owner. -/
private theorem owner_of_admits (role : actor.role = .employee)
    {p : OwnOrAny} {employee : String}
    (only : Role.employee.permissions.contains p.any = false)
    (admitted : p.admits actor employee = true) : employee = actor.id := by
  rw [OwnOrAny.admits, may_eq role p.any, only, Bool.false_or,
    Bool.and_eq_true, beq_iff_eq] at admitted
  exact admitted.2.symm

/-- Whoever may list what is their own alone gets a list of that. -/
private theorem filter_of_employee (role : actor.role = .employee)
    {p : ListPermissions} {requested employee : Option String}
    (only : Role.employee.permissions.contains p.any = false)
    (own : Role.employee.permissions.contains p.own = true)
    (passed : p.filter actor requested = .ok employee) :
    requested.getD actor.id = actor.id ∧ employee = some actor.id := by
  unfold ListPermissions.filter at passed
  rw [may_eq role p.any, may_eq role p.own, only, own] at passed
  by_cases same : requested.getD actor.id = actor.id
  · simp [same] at passed
    exact ⟨same, passed.symm⟩
  · simp [same] at passed

end Role

/-! ## Deeds -/

namespace Call

variable {ctx : Context} {st : Store} {actor : Actor} {scope : TenantScope}
  {c : Call} {w : Write} {notice : Notice} {reply : Reply}

/-- A deed of an employee writes and replies nothing but what is theirs. -/
theorem Does.of_employee (does : c.Does ctx st actor scope w notice reply)
    (role : actor.role = .employee) (new : ctx.NewIds st) :
    w.MadeBy actor.id st ∧ reply.OwnedBy actor.id st := by
  cases does with
  | @createRecord input e r _ permitted shift found visible own made =>
      subst made
      have owner : input.employee = actor.id :=
        (Table.key_of_get? found).symm.trans (owner_of_admits role rfl own)
      refine ⟨{ record := ?_ }, owner⟩
      rintro r ⟨⟩
      refine ⟨owner, rfl, ?_⟩
      intro old kept
      have absent := new.record.symm.trans kept
      cases absent
  | @updateRecord id changes existing _ permitted found visible own pending
      shift =>
      have owner := owner_of_admits role rfl own
      refine ⟨{ record := ?_ }, owner⟩
      rintro r ⟨⟩
      refine ⟨owner, pending, ?_⟩
      intro old here
      rw [Table.eq_of_get?_key found here]
      exact ⟨owner, pending⟩
  | createLeave permitted span found visible own made free =>
      subst made
      have owner := owner_of_admits role rfl own
      refine ⟨{ leave := ?_ }, owner⟩
      rintro r ⟨⟩
      refine ⟨owner, .inl rfl, ?_⟩
      intro old kept
      have absent := new.leave.symm.trans kept
      cases absent
  | updateLeave permitted found visible pending own made span free =>
      subst made
      have owner := owner_of_admits role rfl own
      refine ⟨{ leave := ?_ }, owner⟩
      rintro r ⟨⟩
      refine ⟨owner, .inl pending, ?_⟩
      intro old here
      rw [Table.eq_of_get?_key found here]
      exact ⟨owner, pending⟩
  | @cancelLeave id reason existing _ permitted found visible pending own =>
      have owner := owner_of_admits role rfl own
      have here : st.leave.get? existing.id = some existing :=
        Table.get?_key found
      refine ⟨{ leave := ?_, decision := ?_ }, owner⟩
      · rintro r ⟨⟩
        refine ⟨owner, .inr ⟨rfl, ?_⟩, ?_⟩
        · exact Option.isSome_of_mem here
        · intro old kept
          rw [Table.eq_of_get?_key found kept]
          exact ⟨owner, pending⟩
      · rintro d ⟨⟩
        exact ⟨rfl, existing, here, owner⟩
  | @readBalance id e permitted found visible own =>
      have owner : e.id = actor.id :=
        (Table.key_of_get? found).trans (owner_of_admits role rfl own)
      have named : (openedLedger ctx st e.id e.organization).employee =
          actor.id :=
        (openedLedger_employee ctx st e.id e.organization).trans owner
      refine ⟨{ balance := ?_ }, named⟩
      rintro b ⟨⟩
      rw [openedLedger_employee]
      cases kept : st.balances.get? e.id with
      | none =>
          refine Or.inr ⟨rfl, named, ?_⟩
          simp [openedLedger, Store.ledger, kept, LeaveBalance.fresh]
      | some b =>
          refine Or.inl ?_
          simp [openedLedger, Store.ledger, kept]
  | createOrganization permitted | createEmployee permitted
  | updateEmployee permitted | approveRecord permitted
  | rejectRecord permitted | approveLeave permitted | rejectLeave permitted
  | settleAccrual permitted | createSchedule permitted
  | previewPayroll permitted | previewPayrollWithDeductions permitted
  | confirmRun permitted | readProfile permitted | upsertProfile permitted =>
      rw [may_eq role] at permitted
      cases permitted

end Call

/-! ## Lists -/

theorem OwnerFilter.employee_of_passes {organization owner : Option String}
    {employee wanted : String}
    (passed : OwnerFilter.passes ⟨owner, some wanted⟩ organization employee =
      true) : employee = wanted := by
  simp only [OwnerFilter.passes, Workforce.wanted, Option.all_some,
    Bool.and_eq_true, beq_iff_eq] at passed
  exact passed.2.symm

/-- Where an operation on each item passes, a value is that of some item. -/
theorem exists_of_mem_mapM {α β ε : Type} {f : α → Except ε β}
    {items : List α} {values : List β} (done : items.mapM f = .ok values) :
    ∀ b ∈ values, ∃ a ∈ items, f a = .ok b := by
  induction items generalizing values with
  | nil =>
      cases done
      exact nofun
  | cons a rest inductionHypothesis =>
      rw [List.mapM_cons] at done
      cases first : f a with
      | error failure =>
          rw [first] at done
          cases done
      | ok b =>
          cases others : rest.mapM f with
          | error failure =>
              rw [first, others] at done
              cases done
          | ok bs =>
              rw [first, others] at done
              cases done
              intro value member
              rcases List.mem_cons.1 member with rfl | later
              · exact ⟨a, List.mem_cons_self, first⟩
              · obtain ⟨c, within, same⟩ :=
                  inductionHypothesis others value later
                exact ⟨c, List.mem_cons_of_mem a within, same⟩

/-- Totals are those of somebody who has a record among those added up. -/
theorem AttendanceAggregate.mem_ofRecords {records : List AttendanceRecord}
    {rows : List AttendanceAggregate} (counted : ofRecords records = .ok rows)
    {row : AttendanceAggregate} (member : row ∈ rows) :
    ∃ r ∈ records, r.employee = row.employee := by
  unfold ofRecords at counted
  generalize closed : (records.filterMap fun r =>
    r.workInterval.map fun w => (r.employee, w)) = shifts at counted
  cases divided : shifts.mapM fun s => return (s.1, ← s.2.split) with
  | error failure =>
      simp only [divided] at counted
      cases counted
  | ok paid =>
      simp only [divided] at counted
      cases counted
      simp only [List.mem_map, mem_sortBy, List.mem_eraseDups] at member
      obtain ⟨employee, ⟨item, kept, rfl⟩, rfl⟩ := member
      obtain ⟨shift, listed, split⟩ := exists_of_mem_mapM divided item kept
      rw [← closed] at listed
      simp only [List.mem_filterMap, Option.map_eq_some_iff] at listed
      obtain ⟨r, counts, w, _, rfl⟩ := listed
      refine ⟨r, counts, ?_⟩
      cases minutes : w.split with
      | error failure =>
          simp only [minutes] at split
          cases split
      | ok m =>
          simp only [minutes] at split
          cases split
          rfl

namespace Store

variable {st : Store} {period : Period} {organization : Option String}
  {employee : String}

theorem employee_of_mem_listRecords {state : Option AttendanceState}
    {r : AttendanceRecord}
    (member : r ∈ st.listRecords period ⟨organization, some employee⟩ state) :
    r.employee = employee := by
  simp only [listRecords, mem_sortBy, List.mem_filter, Bool.and_eq_true]
    at member
  exact OwnerFilter.employee_of_passes member.2.2

theorem employee_of_mem_listLeave {state : Option LeaveState}
    {r : LeaveRequest}
    (member : r ∈ st.listLeave period ⟨organization, some employee⟩ state) :
    r.employee = employee := by
  simp only [listLeave, mem_sortBy, List.mem_filter, Bool.and_eq_true]
    at member
  exact OwnerFilter.employee_of_passes member.2.2

theorem employee_of_mem_listSchedules {s : WorkSchedule}
    (member : s ∈ st.listSchedules period ⟨organization, some employee⟩) :
    s.employee = employee := by
  simp only [listSchedules, mem_sortBy, List.mem_filter, Bool.and_eq_true]
    at member
  exact OwnerFilter.employee_of_passes member.2.2

end Store

namespace Call

open Service

variable {ctx : Context} {st : Store} {actor : Actor}

private theorem authorized_eq {caller : Actor} {scope : TenantScope}
    (called : ctx.actor = some actor)
    (authorized : ctx.authorize = .ok (caller, scope)) : caller = actor := by
  have same := (Context.authorize_eq_ok.1 authorized).1
  rw [called] at same
  exact (Option.some.inj same).symm

private theorem unpermitted_people (called : ctx.actor = some actor)
    (role : actor.role = .employee) {p : Permission} {deed : String}
    {passed : Actor × TenantScope}
    (absent : Role.employee.permissions.contains p = false) :
    ¬ authorizePeople ctx p deed = .ok passed := by
  intro authorized
  obtain ⟨caller, scope⟩ := passed
  obtain ⟨authorized, permitted⟩ := authorizePeople_eq_ok.1 authorized
  rw [authorized_eq called authorized, may_eq role, absent] at permitted
  cases permitted

/-- A list or lookup of an employee replies nothing but what is theirs. -/
theorem reply_of_looking {c : Call} {reply : Reply}
    (called : ctx.actor = some actor) (role : actor.role = .employee)
    (looks : c.looksOnly = true) (done : (c.effect ctx st).reply = .ok reply) :
    reply.OwnedBy actor.id st := by
  cases c with
  | listRecords query =>
      obtain ⟨rs, listed, rfl⟩ := reading_eq_ok done
      simp only [Service.listRecords, Outcome.bind_eq_ok,
        Outcome.pure_eq_ok] at listed
      obtain ⟨⟨caller, scope⟩, authorized, _, _, employee, passed, rfl⟩ :=
        listed
      rw [authorized_eq called authorized] at passed
      obtain ⟨_, rfl⟩ := filter_of_employee role rfl rfl passed
      exact fun r member => Store.employee_of_mem_listRecords member
  | listAggregates query =>
      obtain ⟨rows, listed, rfl⟩ := reading_eq_ok done
      simp only [Service.listAggregates, Outcome.bind_eq_ok] at listed
      obtain ⟨⟨caller, scope⟩, authorized, _, _, employee, passed,
        aggregated⟩ := listed
      rw [authorized_eq called authorized] at passed
      obtain ⟨_, rfl⟩ := filter_of_employee role rfl rfl passed
      intro row member
      obtain ⟨r, counted, same⟩ := AttendanceAggregate.mem_ofRecords
        (Outcome.ofAmount_eq_ok.1 aggregated) member
      rw [← same]
      exact Store.employee_of_mem_listRecords counted
  | listLeave query =>
      obtain ⟨rs, listed, rfl⟩ := reading_eq_ok done
      simp only [Service.listLeave, Outcome.bind_eq_ok,
        Outcome.pure_eq_ok] at listed
      obtain ⟨⟨caller, scope⟩, authorized, _, _, employee, passed, rfl⟩ :=
        listed
      rw [authorized_eq called authorized] at passed
      obtain ⟨_, rfl⟩ := filter_of_employee role rfl rfl passed
      exact fun r member => Store.employee_of_mem_listLeave member
  | listDecisions id =>
      obtain ⟨ds, listed, rfl⟩ := reading_eq_ok done
      simp only [Service.listDecisions, requireLeave, Outcome.bind_eq_ok,
        Outcome.pure_eq_ok, TenantScope.visible_eq_ok] at listed
      obtain ⟨⟨caller, scope⟩, authorized, _, _, r, ⟨found, _⟩, _, passed,
        rfl⟩ := listed
      rw [authorized_eq called authorized] at passed
      obtain ⟨owner, _⟩ := filter_of_employee role rfl rfl passed
      intro d member
      have named : d.request = r.id := by
        simpa using (List.mem_filter.1 member).2
      rw [named]
      exact ⟨r, Table.get?_key found, owner⟩
  | listSchedules query =>
      obtain ⟨rows, listed, rfl⟩ := reading_eq_ok done
      obtain ⟨caller, scope, employee, authorized, _, passed, rfl⟩ :=
        listSchedules_eq_ok listed
      rw [authorized_eq called authorized] at passed
      obtain ⟨_, rfl⟩ := filter_of_employee role rfl rfl passed
      exact fun s member => Store.employee_of_mem_listSchedules member
  | listRuns employee state =>
      obtain ⟨rs, listed, rfl⟩ := reading_eq_ok done
      simp only [Service.listRuns, Outcome.bind_eq_ok, Actor.require_eq_ok,
        Outcome.pure_eq_ok] at listed
      obtain ⟨⟨caller, scope⟩, authorized, _, permitted, _⟩ := listed
      rw [authorized_eq called authorized, may_eq role] at permitted
      cases permitted
  | listOrganizations =>
      obtain ⟨os, listed, rfl⟩ := reading_eq_ok done
      obtain ⟨_, authorized, _⟩ := Outcome.bind_eq_ok.1 listed
      exact absurd authorized (unpermitted_people called role rfl)
  | getOrganization id =>
      obtain ⟨o, listed, rfl⟩ := reading_eq_ok done
      obtain ⟨_, authorized, _⟩ := Outcome.bind_eq_ok.1 listed
      exact absurd authorized (unpermitted_people called role rfl)
  | listEmployees active =>
      obtain ⟨es, listed, rfl⟩ := reading_eq_ok done
      obtain ⟨_, authorized, _⟩ := Outcome.bind_eq_ok.1 listed
      exact absurd authorized (unpermitted_people called role rfl)
  | getEmployee id =>
      obtain ⟨e, listed, rfl⟩ := reading_eq_ok done
      obtain ⟨_, authorized, _⟩ := Outcome.bind_eq_ok.1 listed
      exact absurd authorized (unpermitted_people called role rfl)
  | _ =>
      cases looks

end Call

/-! ## Calls -/

/-- An employee changes nothing but what is their own: their pending records
and requests, which stay pending or, for a request, are withdrawn, the log, to
which such withdrawals are added, and their ledger, which is at most opened.
What they are replied is their own as well.  The store may be any, reachable
or not, with ids for new entities that are new in it. -/
theorem perform_confined_to_employee {ctx : Context} {st : Store}
    {actor : Actor} (called : ctx.actor = some actor)
    (role : actor.role = .employee) (new : ctx.NewIds st) (sinks : Sinks)
    (c : Call) :
    st.LeftBy actor.id (c.perform ctx sinks st).2 ∧
      ∀ reply, (c.perform ctx sinks st).1 = .ok reply →
        reply.OwnedBy actor.id st := by
  have comes := c.effect_comes ctx st
  have looked := @Call.reply_of_looking ctx st actor c
  have left := Effect.record_store (c.effect ctx st) sinks
  have answered := Effect.record_reply (c.effect ctx st) sinks
  have unchanged : st.LeftBy actor.id st := by
    have nothing : Write.MadeBy actor.id st {} := {}
    simpa using Store.leftBy_write nothing
  rw [Call.perform, left, answered]
  generalize c.effect ctx st = effect at comes looked ⊢
  have replied : ∀ reply, effect.answered sinks = .ok reply →
      effect.reply = .ok reply :=
    fun reply => Effect.reply_of_answered
  cases comes with
  | failed failure =>
      refine ⟨{ unchanged with }, ?_⟩
      intro reply done
      cases replied reply done
  | looked reply only =>
      refine ⟨{ unchanged with }, ?_⟩
      intro told done
      exact looked called role only (replied told done)
  | warned authorized call conflict silent =>
      refine ⟨{ unchanged with }, ?_⟩
      intro reply done
      cases replied reply done
  | @halted caller scope input s notice cause authorized call does beyond =>
      obtain rfl := Call.authorized_eq called authorized
      obtain ⟨made, _⟩ := does.of_employee role new
      refine ⟨{ Store.leftBy_write made with }, ?_⟩
      intro reply done
      cases replied reply done
  | @done caller scope w notice reply authorized does =>
      obtain rfl := Call.authorized_eq called authorized
      obtain ⟨made, owned⟩ := does.of_employee role new
      refine ⟨{ Store.leftBy_write made with }, ?_⟩
      intro told done
      cases replied told done
      exact owned

def hiredEmployee : Actor :=
  { id := "emp-001", role := .employee, organization := none }

def employeeContext : Context :=
  { asking.ctx with actor := some hiredEmployee, fresh := fun _ => "3" }

/-- The employee withdraws the leave that was asked for. -/
def withdrawal : Outcome Reply × Store :=
  Call.perform employeeContext .working asking.after (.cancelLeave "2" none)

/-- The withdrawal of an employee's own leave succeeds, and nothing else is
changed. -/
theorem withdrawal_confined_to_employee :
    employeeContext.NewIds asking.after ∧
      asking.after.LeftBy "emp-001" withdrawal.2 ∧
      (withdrawal.2.leave.get? "2").map LeaveRequest.state =
        some .canceled ∧
      ∀ reply, withdrawal.1 = .ok reply →
        reply.OwnedBy "emp-001" asking.after := by
  have new : employeeContext.NewIds asking.after :=
    ⟨rfl, by decide, rfl, rfl, rfl⟩
  have called : employeeContext.actor = some hiredEmployee := rfl
  obtain ⟨left, owned⟩ := perform_confined_to_employee called rfl new
    .working (.cancelLeave "2" none)
  exact ⟨new, left, by decide, owned⟩

end Workforce
