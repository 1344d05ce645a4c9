import Workforce.Proofs.Leave.Decision
import Workforce.Proofs.Pay.Price
import Workforce.Proofs.Tenancy.Transfer

/-!
# What the tables say of one another

No table knows of the others, and none checks what is put into it.  This module
shows that all stored entities nevertheless fit together after every run:

* whatever belongs to an employee names one that is there, in an organization
  that is there, or in none;
* every decision is about a request that is there;
* the ids of employees are trimmed, are not blank and are no two the same;
* every entity stands under its own id, and a ledger under its employee's;
* every shift ends after it starts, has a break and notes of the permitted
  length, and bears an approval exactly if it was approved.

What a deed writes is judged by the store before it (`Write.Fits`).  That is
enough because the keys of a table never go away.  A table finds a row under the
row's own id.  That this is the id which the call was about is said of each
operation by `Call.Does.bears_asked`, and `Step.sameUnder` says that nothing
happens to other ids.
-/

namespace Workforce

open Service
open TenantScope (visible_eq_ok)

/-! ## References -/

namespace Store

/-- There is an employee of this id. -/
def Employs (st : Store) (id : String) : Prop :=
  st.employees.contains id = true

/-- There is the organization, if one is named. -/
def Hosts (st : Store) (organization : Option String) : Prop :=
  ∀ id, organization = some id → st.organizations.contains id = true

/-- There are the employee and the organization, if one is named. -/
def Knows (st : Store) (employee : String)
    (organization : Option String) : Prop :=
  st.Employs employee ∧ st.Hosts organization

variable {st : Store}

theorem Employs.write {id : String} (known : st.Employs id) (w : Write) :
    (st.write w).Employs id :=
  Table.contains_putAny known w.employee

theorem Hosts.write {organization : Option String}
    (known : st.Hosts organization) (w : Write) :
    (st.write w).Hosts organization :=
  fun id named => Table.contains_putAny (known id named) w.organization

theorem Knows.write {employee : String} {organization : Option String}
    (known : st.Knows employee organization) (w : Write) :
    (st.write w).Knows employee organization :=
  ⟨known.1.write w, known.2.write w⟩

end Store

/-! ## Entities -/

/-- A shift that may be recorded, with an approval exactly if it was
approved. -/
structure AttendanceRecord.IsSound (r : AttendanceRecord) : Prop where
  checkOut : ∀ t, r.checkOut = some t → r.checkIn.instant < t.instant
  breakMinutes : 0 ≤ r.breakMinutes ∧ r.breakMinutes ≤ 300
  notes : ∀ s, r.notes = some s → s.length ≤ 1000
  approved :
    r.state = .approved ↔
      r.approvedAt.isSome = true ∧ r.approvedBy.isSome = true

/-- An employee whose id is trimmed and not blank. -/
structure Employee.IsNamed (e : Employee) : Prop where
  trimmed : Text.trim e.id = e.id
  nonblank : Text.allBlank e.id = false

/-- All that refers to something refers to what is there. -/
structure Store.Integrity (st : Store) : Prop where
  records : ∀ r ∈ st.attendance.rows,
    st.Knows r.employee r.organization ∧ r.IsSound
  leave : ∀ r ∈ st.leave.rows, st.Knows r.employee r.organization
  schedules : ∀ s ∈ st.schedules.rows, st.Knows s.employee s.organization
  balances : ∀ b ∈ st.balances.rows, st.Knows b.employee b.organization
  runs : ∀ r ∈ st.payroll.rows, ∀ id, r.employee = some id → st.Employs id
  employees : ∀ e ∈ st.employees.rows, e.IsNamed ∧ st.Hosts e.organization
  decisions : ∀ d ∈ st.decisions, st.leave.contains d.request = true

/-- Each of the eight tables keeps its entities under their own ids, and that
of the ledgers under those of their employees. -/
structure Store.KeepsIds (st : Store) : Prop where
  records : ∀ key r, st.attendance.get? key = some r → r.id = key
  leave : ∀ key r, st.leave.get? key = some r → r.id = key
  schedules : ∀ key s, st.schedules.get? key = some s → s.id = key
  balances : ∀ key b, st.balances.get? key = some b → b.employee = key
  profiles : ∀ key p, st.profiles.get? key = some p → p.id = key
  runs : ∀ key r, st.payroll.get? key = some r → r.id = key
  employees : ∀ key e, st.employees.get? key = some e → e.id = key
  organizations : ∀ key o, st.organizations.get? key = some o → o.id = key

theorem Store.keepsIds (st : Store) : st.KeepsIds where
  records _ _ := Table.key_of_get?
  leave _ _ := Table.key_of_get?
  schedules _ _ := Table.key_of_get?
  balances _ _ := Table.key_of_get?
  profiles _ _ := Table.key_of_get?
  runs _ _ := Table.key_of_get?
  employees _ _ := Table.key_of_get?
  organizations _ _ := Table.key_of_get?

/-! ## Shifts -/

/-- A shift that passes its checks is sound as far as it is approved exactly
if it says so. -/
theorem AttendanceRecord.isSound_of_ensureShift {r : AttendanceRecord}
    (shift : ensureShift r.checkIn r.checkOut r.breakMinutes r.notes = .ok ())
    (approved : r.state = .approved ↔
      r.approvedAt.isSome = true ∧ r.approvedBy.isSome = true) :
    r.IsSound := by
  simp only [ensureShift, ensureBreakAndNotes, Outcome.bind_eq_ok,
    Outcome.ensure_eq_ok] at shift
  obtain ⟨_, ends, _, bounded, short⟩ := shift
  refine ⟨?_, bounded, ?_, approved⟩
  · intro t closed
    rw [closed] at ends
    exact of_decide_eq_true ends
  · intro s noted
    rw [noted] at short
    exact of_decide_eq_true short

/-- A decision changes nothing of a shift but what is said of its approval. -/
theorem AttendanceRecord.IsSound.approve {r : AttendanceRecord}
    (sound : r.IsSound) (a : Actor) (now : Instant) :
    (r.approve a now).IsSound :=
  ⟨sound.checkOut, sound.breakMinutes, sound.notes,
    by simp [AttendanceRecord.approve]⟩

theorem AttendanceRecord.IsSound.reject {r : AttendanceRecord}
    (sound : r.IsSound) (now : Instant) : (r.reject now).IsSound :=
  ⟨sound.checkOut, sound.breakMinutes, sound.notes,
    by simp [AttendanceRecord.reject]⟩

/-! ## Writes -/

/-- What is written fits into the store that it is written into. -/
structure Write.Fits (w : Write) (st : Store) : Prop where
  record : ∀ r, w.record = some r →
    st.Knows r.employee r.organization ∧ r.IsSound := by simp
  leave : ∀ r, w.leave = some r → st.Knows r.employee r.organization := by
    simp
  schedule : ∀ s, w.schedule = some s →
    st.Knows s.employee s.organization := by simp
  balance : ∀ b, w.balance = some b →
    st.Knows b.employee b.organization := by simp
  run : ∀ r, w.run = some r → ∀ id, r.employee = some id →
    st.Employs id := by simp
  employee : ∀ e, w.employee = some e →
    e.IsNamed ∧ st.Hosts e.organization := by simp
  decision : ∀ d, w.decision = some d →
    st.leave.contains d.request = true := by simp

namespace Write.Fits

variable {st : Store}

theorem of_record {r : AttendanceRecord}
    (known : st.Knows r.employee r.organization) (sound : r.IsSound) :
    Fits { record := some r } st where
  record := by
    rintro _ ⟨⟩
    exact ⟨known, sound⟩

theorem of_leave {r : LeaveRequest}
    (known : st.Knows r.employee r.organization) :
    Fits { leave := some r } st where
  leave := by
    rintro _ ⟨⟩
    exact known

/-- A decision, and the ledger that it charges, if there is one. -/
theorem of_decision {r : LeaveRequest} {d : LeaveDecision}
    {balance : Option LeaveBalance}
    (known : st.Knows r.employee r.organization)
    (about : st.leave.contains d.request = true)
    (charged : ∀ b, balance = some b →
      st.Knows b.employee b.organization) :
    Fits { leave := some r, decision := some d, balance } st where
  leave := by
    rintro _ ⟨⟩
    exact known
  decision := by
    rintro _ ⟨⟩
    exact about
  balance := charged

theorem of_balance {b : LeaveBalance}
    (known : st.Knows b.employee b.organization) :
    Fits { balance := some b } st where
  balance := by
    rintro _ ⟨⟩
    exact known

theorem of_run {r : PayrollRun}
    (known : ∀ id, r.employee = some id → st.Employs id) :
    Fits { run := some r } st where
  run := by
    rintro _ ⟨⟩
    exact known

theorem of_employee {e : Employee} (named : e.IsNamed)
    (home : st.Hosts e.organization) :
    Fits { employee := some e } st where
  employee := by
    rintro _ ⟨⟩
    exact ⟨named, home⟩

end Write.Fits

namespace Store.Integrity

variable {ctx : Context} {st : Store} {scope : TenantScope}

theorem write (sound : st.Integrity) {w : Write} (fits : w.Fits st) :
    (st.write w).Integrity where
  records r member := by
    obtain ⟨known, shift⟩ :=
      Table.forall_mem_putAny sound.records fits.record r member
    exact ⟨known.write w, shift⟩
  leave r member :=
    (Table.forall_mem_putAny sound.leave fits.leave r member).write w
  schedules s member :=
    (Table.forall_mem_putAny sound.schedules fits.schedule s member).write w
  balances b member :=
    (Table.forall_mem_putAny sound.balances fits.balance b member).write w
  runs r member id named :=
    (Table.forall_mem_putAny sound.runs fits.run r member id named).write w
  employees e member := by
    obtain ⟨named, home⟩ :=
      Table.forall_mem_putAny sound.employees fits.employee e member
    exact ⟨named, home.write w⟩
  decisions d member := by
    apply Table.contains_putAny
    rcases List.mem_append.1 member with before | new
    · exact sound.decisions d before
    · exact fits.decision d (Option.mem_toList.1 new)

/-! ## What the store knows already -/

theorem knows_employee (sound : st.Integrity) {id : String} {e : Employee}
    (found : st.employees.get? id = some e) :
    st.Knows e.id e.organization :=
  ⟨Table.contains_of_get? (Table.get?_key found),
    (sound.employees e (Table.mem_of_get? found)).2⟩

theorem knows_record (sound : st.Integrity) {id : String}
    {r : AttendanceRecord} (found : st.attendance.get? id = some r) :
    st.Knows r.employee r.organization ∧ r.IsSound :=
  sound.records r (Table.mem_of_get? found)

theorem knows_leave (sound : st.Integrity) {id : String} {r : LeaveRequest}
    (found : st.leave.get? id = some r) :
    st.Knows r.employee r.organization :=
  sound.leave r (Table.mem_of_get? found)

/-- A ledger that is opened is there already, or belongs to whom it is opened
for. -/
theorem knows_openedLedger (sound : st.Integrity) {employee : String}
    {organization : Option String} (known : st.Knows employee organization) :
    st.Knows (Call.openedLedger ctx st employee organization).employee
      (Call.openedLedger ctx st employee organization).organization := by
  unfold Call.openedLedger Store.ledger
  cases found : st.balances.get? employee with
  | none =>
      exact known
  | some b =>
      exact sound.balances b (Table.mem_of_get? found)

end Store.Integrity

section Deeds

variable {ctx : Context} {st : Store} {scope : TenantScope}

/-- Nobody is placed in an organization that is not there. -/
theorem hosts_of_placement {requested organization : Option String}
    (placed : placement st scope requested = .ok organization) :
    st.Hosts organization := by
  intro id named
  unfold placement at placed
  split at placed
  · simp only [requireOrganization, Outcome.bind_eq_ok, Outcome.pure_eq_ok,
      visible_eq_ok] at placed
    obtain ⟨o, ⟨found, _⟩, same⟩ := placed
    rw [named] at same
    cases same
    exact Table.contains_of_get? (Table.get?_key found)
  · rw [named] at placed
    cases placed

/-- A period is priced for an employee who is there, or for all. -/
theorem employs_of_pricePeriod {input : PreviewInput} {priced : PricedPeriod}
    (price : pricePeriod ctx st scope input = .ok priced) {id : String}
    (named : input.employee = some id) : st.Employs id := by
  obtain ⟨e, required⟩ := (checks_of_pricePeriod price).employee id named
  exact Table.contains_of_get? (visible_eq_ok.1 required).1

/-- Every deed writes what fits. -/
theorem Call.Does.fits {actor : Actor} {c : Call} {w : Write}
    {notice : Notice} {reply : Reply}
    (does : c.Does ctx st actor scope w notice reply)
    (sound : st.Integrity) : w.Fits st := by
  cases does with
  | createEmployee permitted named placed made new =>
      subst made
      exact .of_employee
        ⟨Text.trim_trim _, Text.not_allBlank_trim named⟩
        (hosts_of_placement placed)
  | updateEmployee permitted found visible placed =>
      obtain ⟨named, home⟩ := sound.employees _ (Table.mem_of_get? found)
      refine .of_employee ⟨named.trimmed, named.nonblank⟩ ?_
      rcases placed with ⟨_, same⟩ | ⟨_, placed⟩
      · rw [same]
        exact home
      · exact hosts_of_placement placed
  | createRecord permitted shift found visible own made =>
      obtain ⟨_, home⟩ := sound.knows_employee found
      subst made
      refine .of_record ⟨Table.contains_of_get? found, home⟩ ?_
      exact AttendanceRecord.isSound_of_ensureShift shift
        (by simp [NewRecord.toRecord])
  | updateRecord permitted found visible own pending shift =>
      obtain ⟨known, before⟩ := sound.knows_record found
      exact .of_record known
        (AttendanceRecord.isSound_of_ensureShift shift before.approved)
  | approveRecord permitted found visible pending =>
      obtain ⟨known, before⟩ := sound.knows_record found
      exact .of_record known (before.approve actor ctx.now)
  | rejectRecord permitted found visible pending =>
      obtain ⟨known, before⟩ := sound.knows_record found
      exact .of_record known (before.reject ctx.now)
  | createLeave permitted span found visible own made free =>
      have known := sound.knows_employee found
      subst made
      exact .of_leave known
  | updateLeave permitted found visible pending own made span free =>
      have known := sound.knows_leave found
      subst made
      exact .of_leave known
  | approveLeave permitted found visible pending =>
      have known := sound.knows_leave found
      refine .of_decision known
        (Table.contains_of_get? (Table.get?_key found)) ?_
      rintro _ ⟨⟩
      exact sound.knows_openedLedger known
  | rejectLeave permitted reasoned found visible pending =>
      have known := sound.knows_leave found
      exact .of_decision known
        (Table.contains_of_get? (Table.get?_key found)) (by simp)
  | cancelLeave permitted found visible pending own =>
      have known := sound.knows_leave found
      exact .of_decision known
        (Table.contains_of_get? (Table.get?_key found)) (by simp)
  | readBalance permitted found visible own =>
      exact .of_balance
        (sound.knows_openedLedger (sound.knows_employee found))
  | settleAccrual permitted terms found visible settled =>
      apply Write.Fits.of_balance
      rw [LeaveBalance.settle_employee settled,
        LeaveBalance.settle_organization settled]
      exact sound.knows_openedLedger (sound.knows_employee found)
  | createSchedule permitted ordered bounded found visible made free =>
      have known := sound.knows_employee found
      subst made
      refine { schedule := ?_ }
      rintro _ ⟨⟩
      exact known
  | previewPayroll permitted price =>
      exact .of_run fun _ named => employs_of_pricePeriod price named
  | previewPayrollWithDeductions permitted enabled profiles price
      resolved =>
      exact .of_run fun _ named => employs_of_pricePeriod price named
  | confirmRun permitted found visible previewed =>
      have known := sound.runs _ (Table.mem_of_get? found)
      exact .of_run known
  | _ =>
      -- The other deeds write nothing that refers to anything.
      exact {}

end Deeds

/-! ## Rows and their ids -/

/-- The id that a call is about: the one it names, or the one that is made for
what is new.  A ledger is named by its employee. -/
def Call.asks (ctx : Context) : Call → Option String
  | .createOrganization _ => some (ctx.fresh .organization)
  | .createEmployee input => some (Text.trim input.id)
  | .createRecord _ => some (ctx.fresh .record)
  | .createLeave _ => some (ctx.fresh .leave)
  | .createSchedule _ => some (ctx.fresh .schedule)
  | .previewPayroll _ => some (ctx.fresh .run)
  | .previewPayrollWithDeductions _ _ => some (ctx.fresh .run)
  | .updateEmployee id _ => some id
  | .updateRecord id _ => some id
  | .approveRecord id => some id
  | .rejectRecord id _ => some id
  | .updateLeave id _ => some id
  | .approveLeave id => some id
  | .rejectLeave id _ => some id
  | .cancelLeave id _ => some id
  | .readBalance employee => some employee
  | .settleAccrual input => some input.employee
  | .confirmRun id => some id
  | .readProfile id => some id
  | .upsertProfile id _ => some (Text.trim id)
  | _ => none

/-- `Write.Bears id st w`: all that is written has the id.  A ledger is that of
the employee of this id, or of the request that has it. -/
structure Write.Bears (id : String) (st : Store) (w : Write) : Prop where
  record : ∀ r, w.record = some r → r.id = id := by simp
  leave : ∀ r, w.leave = some r → r.id = id := by simp
  decision : ∀ d, w.decision = some d → d.request = id := by simp
  balance : ∀ b, w.balance = some b → b.employee = id ∨
    ∃ r, st.leave.get? id = some r ∧ b.employee = r.employee := by simp
  schedule : ∀ s, w.schedule = some s → s.id = id := by simp
  profile : ∀ p, w.profile = some p → p.id = id := by simp
  run : ∀ r, w.run = some r → r.id = id := by simp
  employee : ∀ e, w.employee = some e → e.id = id := by simp
  organization : ∀ o, w.organization = some o → o.id = id := by simp

section Asked

variable {ctx : Context} {st : Store} {actor : Actor} {scope : TenantScope}
  {c : Call} {w : Write} {notice : Notice} {reply : Reply} {id : String}

/-- A decision writes the request it decides on. -/
theorem Write.Bears.of_decision {existing : LeaveRequest}
    (found : st.leave.get? id = some existing) {action : LeaveAction}
    {reason : Option String} {balance : Option LeaveBalance}
    (charged : ∀ b, balance = some b → b.employee = existing.employee) :
    Write.Bears id st
      { leave := some (existing.decide actor action reason ctx.now)
        decision := some (existing.decision actor action reason ctx.now)
        balance } where
  leave := by
    rintro _ ⟨⟩
    exact Table.key_of_get? found
  decision := by
    rintro _ ⟨⟩
    exact Table.key_of_get? found
  balance := fun b same => .inr ⟨existing, found, charged b same⟩

/-- Whatever an operation writes has the id that it was asked for. -/
theorem Call.Does.bears_asked
    (does : c.Does ctx st actor scope w notice reply) :
    ∃ id, c.asks ctx = some id ∧ w.Bears id st := by
  cases does with
  | createOrganization =>
      exact ⟨_, rfl, by constructor <;> simp⟩
  | createEmployee permitted named placed made new =>
      subst made
      exact ⟨_, rfl, by constructor <;> simp⟩
  | createRecord permitted shift found visible own made =>
      subst made
      exact ⟨_, rfl, by constructor <;> simp [NewRecord.toRecord]⟩
  | createLeave permitted span found visible own made free =>
      subst made
      exact ⟨_, rfl, by constructor <;> simp [NewLeave.toRequest]⟩
  | createSchedule permitted ordered bounded found visible made free =>
      subst made
      exact ⟨_, rfl, by constructor <;> simp [NewSchedule.toSchedule]⟩
  | previewPayroll =>
      exact ⟨_, rfl, by constructor <;> simp [PricedPeriod.toRun]⟩
  | previewPayrollWithDeductions =>
      exact ⟨_, rfl, by constructor <;> simp [Call.netRun, PricedPeriod.toRun]⟩
  | updateEmployee permitted found =>
      have own := Table.key_of_get? found
      exact ⟨_, rfl, { employee := by rintro _ ⟨⟩; exact own }⟩
  | updateRecord permitted found =>
      have own := Table.key_of_get? found
      exact ⟨_, rfl, { record := by rintro _ ⟨⟩; exact own }⟩
  | approveRecord permitted found =>
      have own := Table.key_of_get? found
      exact ⟨_, rfl, { record := by rintro _ ⟨⟩; exact own }⟩
  | rejectRecord permitted found =>
      have own := Table.key_of_get? found
      exact ⟨_, rfl, { record := by rintro _ ⟨⟩; exact own }⟩
  | updateLeave permitted found visible pending own made span free =>
      subst made
      have own := Table.key_of_get? found
      exact ⟨_, rfl, { leave := by rintro _ ⟨⟩; exact own }⟩
  | approveLeave permitted found =>
      refine ⟨_, rfl, .of_decision found ?_⟩
      rintro b ⟨⟩
      exact Call.chargedLedger_employee ctx st _
  | rejectLeave permitted reasoned found =>
      exact ⟨_, rfl, .of_decision found nofun⟩
  | cancelLeave permitted found =>
      exact ⟨_, rfl, .of_decision found nofun⟩
  | readBalance permitted found =>
      have own := Table.key_of_get? found
      refine ⟨_, rfl, { balance := ?_ }⟩
      rintro b ⟨⟩
      exact .inl ((Call.openedLedger_employee ..).trans own)
  | settleAccrual permitted terms found visible settled =>
      have own := Table.key_of_get? found
      refine ⟨_, rfl, { balance := ?_ }⟩
      rintro b ⟨⟩
      have kept := LeaveBalance.settle_employee settled
      exact .inl ((kept.trans (Call.openedLedger_employee ..)).trans own)
  | confirmRun permitted found =>
      have own := Table.key_of_get? found
      exact ⟨_, rfl, { run := by rintro _ ⟨⟩; exact own }⟩
  | readProfile =>
      exact ⟨_, rfl, {}⟩
  | upsertProfile permitted valid within made =>
      subst made
      refine ⟨_, rfl, { profile := ?_ }⟩
      rintro p ⟨⟩
      exact st.drafted_id _ _

end Asked

/-- Two stores have the same under a key in each table but that of the
ledgers. -/
structure Store.SameUnder (key : String) (st after : Store) : Prop where
  records : after.attendance.get? key = st.attendance.get? key
  leave : after.leave.get? key = st.leave.get? key
  schedules : after.schedules.get? key = st.schedules.get? key
  profiles : after.profiles.get? key = st.profiles.get? key
  runs : after.payroll.get? key = st.payroll.get? key
  employees : after.employees.get? key = st.employees.get? key
  organizations : after.organizations.get? key = st.organizations.get? key

theorem Write.Bears.sameUnder {st : Store} {w : Write} {id key : String}
    (bears : w.Bears id st) (other : id ≠ key) :
    st.SameUnder key (st.write w) where
  records := Table.get?_putAny_of_ne _
    fun r row => (bears.record r row).trans_ne other
  leave := Table.get?_putAny_of_ne _
    fun r row => (bears.leave r row).trans_ne other
  schedules := Table.get?_putAny_of_ne _
    fun s row => (bears.schedule s row).trans_ne other
  profiles := Table.get?_putAny_of_ne _
    fun p row => (bears.profile p row).trans_ne other
  runs := Table.get?_putAny_of_ne _
    fun r row => (bears.run r row).trans_ne other
  employees := Table.get?_putAny_of_ne _
    fun e row => (bears.employee e row).trans_ne other
  organizations := Table.get?_putAny_of_ne _
    fun o row => (bears.organization o row).trans_ne other

/-- A step leaves alone what stands under any other id than the one that it
is asked for, whatever becomes of its sinks. -/
theorem Step.sameUnder {s : Step} {key : String}
    (other : s.call.asks s.ctx ≠ some key) :
    s.before.SameUnder key s.after := by
  rcases s.after_cases with
    ⟨_, audit, events, left⟩ |
    ⟨actor, scope, w, notice, reply, audit, events, _, does, left⟩
  · rw [left]
    exact ⟨rfl, rfl, rfl, rfl, rfl, rfl, rfl⟩
  · obtain ⟨id, asked, bears⟩ := does.bears_asked
    have named : id ≠ key := by
      rintro rfl
      exact other asked
    have same := bears.sameUnder named
    rw [left]
    exact ⟨same.records, same.leave, same.schedules, same.profiles,
      same.runs, same.employees, same.organizations⟩

/-! ## Every run -/

theorem Reachable.integrity {st : Store} (reachable : Reachable st) :
    st.Integrity := by
  refine reachable.invariant (P := Store.Integrity) ?_ ?_ ?_
  · constructor
    all_goals exact fun a member => absurd member List.not_mem_nil
  · intro st audit events sound
    exact ⟨sound.records, sound.leave, sound.schedules, sound.balances,
      sound.runs, sound.employees, sound.decisions⟩
  · intro ctx st actor scope c w notice reply sound _ does
    exact sound.write (does.fits sound)

/-- The tables after any run of the system.  All that refers to an employee,
an organization or a request refers to one that is there, what is said of
shifts and employees is sound, no two employees have one id, and every entity
stands under its own. -/
theorem tables_of_reachable {st : Store} (reachable : Reachable st) :
    st.Integrity ∧ (st.employees.rows.map Employee.id).Nodup ∧ st.KeepsIds :=
  ⟨reachable.integrity, st.employees.nodup, st.keepsIds⟩

/-- The employee who was moved is at work for the other organization. -/
def clockingMoved : Step :=
  (adminOf "ORG-2").step transferring.after "AR-1"
    (.createRecord ⟨"emp-001", .ofInstant ⟨0⟩, none, 0, false, none⟩)

/-- The shift is approved while it is still on. -/
def approvingMoved : Step :=
  (adminOf "ORG-2").step clockingMoved.after "5" (.approveRecord "AR-1")

theorem run_approvingMoved :
    Run (approvingMoved :: clockingMoved :: transferRun)
      approvingMoved.after := by
  refine .step (.step run_transferRun ?_) ?_
  · exact ⟨rfl, by decide, rfl, rfl, by decide⟩
  · exact ⟨by decide, by decide, rfl, rfl, by decide⟩

/-- The request and the ledger are those of the first organization, and the
shift is one of the other; all of them are of one employee. -/
theorem tables_of_approvingMoved :
    (approvingMoved.after.attendance.rows.map fun r =>
        (r.employee, r.organization, r.approvedBy)) =
      [("emp-001", some "ORG-2", some "adm-001")] ∧
    (approvingMoved.after.leave.rows.map fun r =>
        (r.employee, r.organization)) = [("emp-001", some "ORG-1")] ∧
    approvingMoved.after.Integrity ∧
    (approvingMoved.after.employees.rows.map Employee.id).Nodup ∧
    approvingMoved.after.KeepsIds :=
  ⟨by decide, by decide, tables_of_reachable ⟨_, run_approvingMoved⟩⟩

end Workforce
