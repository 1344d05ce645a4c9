import Workforce.Proofs.Leave.Days
import Workforce.Proofs.Leave.Ledger
import Workforce.Proofs.Tenancy.Overlap

/-!
# Employees who move take nothing with them

A ledger, a leave request and a schedule bear the organization that their
employee was in when they were made, and what is found by employee alone is
not asked whose it is.  This module shows what that comes to for an actor of
an organization, while tenancy is on:

* as long as an employee has not been moved away from anything, all that is
  theirs bears the organization they are in (`Store.AtHome`), so that the
  ledgers an operation returns or changes, and whatever it is refused for, are
  of the actor's own organization;
* once an employee was moved, none of this holds.  After `transferRun` one
  organization reads the ledger of another and is refused for a request of
  the other, and the other charges the ledger of an employee who has left it.
-/

namespace Workforce

/-! ## Where employees are, and what they have -/

namespace Store

/-- The organization that an employee is in, if the employee is kept. -/
def home? (st : Store) (employee : String) : Option (Option String) :=
  (st.employees.get? employee).map Employee.organization

/-- Something of an employee bears an organization. -/
inductive Holds (st : Store) (employee : String) : Option String → Prop
  | ledger {b : LeaveBalance} (found : st.balances.get? employee = some b) :
      Holds st employee b.organization
  | leave {r : LeaveRequest} (kept : r ∈ st.leave.rows)
      (own : r.employee = employee) : Holds st employee r.organization
  | schedule {s : WorkSchedule} (kept : s ∈ st.schedules.rows)
      (own : s.employee = employee) : Holds st employee s.organization

/-- All that an employee has bears the organization they are in. -/
def AtHome (st : Store) (employee : String) : Prop :=
  ∀ owner, st.Holds employee owner → st.home? employee = some owner

theorem ledger_organization {st : Store} {employee : String}
    {organization : Option String} (atHome : st.AtHome employee)
    (here : st.home? employee = some organization) (grantedDays : Int)
    (now : Instant) :
    (st.ledger employee organization grantedDays now).organization =
      organization := by
  unfold ledger
  cases found : st.balances.get? employee with
  | none =>
      rfl
  | some b =>
      have owner := atHome b.organization (.ledger found)
      rw [here] at owner
      exact (Option.some.inj owner).symm

end Store

/-- What a write brings of an employee bears an organization. -/
inductive Write.Brings (w : Write) (employee : String) :
    Option String → Prop
  | ledger {b : LeaveBalance} (row : w.balance = some b)
      (own : b.employee = employee) : Brings w employee b.organization
  | leave {r : LeaveRequest} (row : w.leave = some r)
      (own : r.employee = employee) : Brings w employee r.organization
  | schedule {s : WorkSchedule} (row : w.schedule = some s)
      (own : s.employee = employee) : Brings w employee s.organization

namespace Write.Brings

variable {employee : String} {owner : Option String}

theorem of_leave {r : LeaveRequest} {d : Option LeaveDecision}
    (brings : Write.Brings { leave := some r, decision := d } employee
      owner) : r.employee = employee ∧ r.organization = owner := by
  cases brings with
  | leave row own =>
      cases row
      exact ⟨own, rfl⟩
  | ledger row | schedule row =>
      cases row

theorem of_ledger {b : LeaveBalance}
    (brings : Write.Brings { balance := some b } employee owner) :
    b.employee = employee ∧ b.organization = owner := by
  cases brings with
  | ledger row own =>
      cases row
      exact ⟨own, rfl⟩
  | leave row | schedule row =>
      cases row

theorem of_schedule {s : WorkSchedule}
    (brings : Write.Brings { schedule := some s } employee owner) :
    s.employee = employee ∧ s.organization = owner := by
  cases brings with
  | schedule row own =>
      cases row
      exact ⟨own, rfl⟩
  | ledger row | leave row =>
      cases row

end Write.Brings

/-- What an employee has after a write was there before, or is brought. -/
theorem Store.holds_write {st : Store} {w : Write} {employee : String}
    {owner : Option String} (holds : (st.write w).Holds employee owner) :
    st.Holds employee owner ∨ w.Brings employee owner := by
  cases holds with
  | ledger found =>
      have kept := Table.mem_of_get? found
      have own := Table.key_of_get? found
      rcases Table.mem_rows_putAny kept with before | row
      · have here := Table.mem_rows_iff.1 before
        rw [own] at here
        exact Or.inl (.ledger here)
      · exact Or.inr (.ledger row own)
  | leave kept own =>
      rcases Table.mem_rows_putAny kept with before | row
      · exact Or.inl (.leave before own)
      · exact Or.inr (.leave row own)
  | schedule kept own =>
      rcases Table.mem_rows_putAny kept with before | row
      · exact Or.inl (.schedule before own)
      · exact Or.inr (.schedule row own)

/-- The ledger that a reply shows, if it shows one. -/
def Reply.ledger? : Reply → Option LeaveBalance
  | .balance b => some b
  | .approval a => some a.balance
  | _ => none

/-! ## What deeds bring -/

namespace Call

variable {ctx : Context} {st : Store} {actor : Actor} {scope : TenantScope}
  {c : Call} {w : Write} {notice : Notice} {reply : Reply}

private theorem home_of_found {id : String} {e : Employee}
    (found : st.employees.get? id = some e) :
    st.home? e.id = some e.organization := by
  have here : st.employees.get? e.id = some e := Table.get?_key found
  rw [Store.home?, here]
  rfl

private theorem home_of_request {id : String} {r : LeaveRequest}
    (found : st.leave.get? id = some r) (atHome : st.AtHome r.employee) :
    st.home? r.employee = some r.organization :=
  atHome r.organization (.leave (Table.mem_of_get? found) rfl)

private theorem openedLedger_organization {employee : String}
    {organization : Option String} (atHome : st.AtHome employee)
    (here : st.home? employee = some organization) :
    (openedLedger ctx st employee organization).organization =
      organization :=
  Store.ledger_organization atHome here _ _

/-- What a deed brings of somebody who has nothing of elsewhere bears the
organization they are in, and nobody is moved on the occasion. -/
theorem Does.home_of_brings
    (does : c.Does ctx st actor scope w notice reply) {employee : String}
    {owner : Option String} (atHome : st.AtHome employee)
    (brings : w.Brings employee owner) :
    st.home? employee = some owner ∧ w.employee = none := by
  cases does with
  | createLeave permitted span found visible own made free =>
      obtain ⟨named, rfl⟩ := brings.of_leave
      subst made named
      exact ⟨home_of_found found, rfl⟩
  | updateLeave permitted found visible pending own made span free =>
      obtain ⟨named, rfl⟩ := brings.of_leave
      subst made named
      have here := home_of_request found atHome
      exact ⟨here, rfl⟩
  | @approveLeave id existing _ permitted found visible pending =>
      cases brings with
      | leave row named =>
          cases row
          subst named
          have here := home_of_request found atHome
          exact ⟨here, rfl⟩
      | ledger row named =>
          cases row
          rw [chargedLedger_employee] at named
          subst named
          have here := home_of_request found atHome
          refine ⟨?_, rfl⟩
          rw [here, Option.some.injEq]
          exact (openedLedger_organization atHome here).symm
      | schedule row =>
          cases row
  | rejectLeave permitted reasoned found visible pending =>
      obtain ⟨named, rfl⟩ := brings.of_leave
      subst named
      have here := home_of_request found atHome
      exact ⟨here, rfl⟩
  | cancelLeave permitted found visible pending own =>
      obtain ⟨named, rfl⟩ := brings.of_leave
      subst named
      have here := home_of_request found atHome
      exact ⟨here, rfl⟩
  | readBalance permitted found visible own =>
      obtain ⟨named, rfl⟩ := brings.of_ledger
      rw [openedLedger_employee] at named
      subst named
      have here := home_of_found found
      rw [here, openedLedger_organization atHome here]
      exact ⟨rfl, rfl⟩
  | settleAccrual permitted terms found visible settled =>
      obtain ⟨named, rfl⟩ := brings.of_ledger
      rw [LeaveBalance.settle_employee settled, openedLedger_employee]
        at named
      subst named
      have here := home_of_found found
      rw [here, LeaveBalance.settle_organization settled,
        openedLedger_organization atHome here]
      exact ⟨rfl, rfl⟩
  | createSchedule permitted ordered bounded found visible made free =>
      obtain ⟨named, rfl⟩ := brings.of_schedule
      subst made named
      exact ⟨home_of_found found, rfl⟩
  | _ =>
      cases brings with
      | ledger row | leave row | schedule row =>
          cases row

/-- The ledger that a deed within an organization replies or writes is of that
organization, and so is the employee, if the employee has nothing of
elsewhere. -/
theorem Does.ledger_at_home {home : String} {b : LeaveBalance}
    (does : c.Does ctx st actor (.organization home) w notice reply)
    (handled : reply.ledger? = some b ∨ w.balance = some b)
    (atHome : st.AtHome b.employee) :
    b.organization = some home ∧
      st.home? b.employee = some (some home) := by
  cases does with
  | @approveLeave id existing _ permitted found visible pending =>
      obtain rfl : chargedLedger ctx st existing = b := by
        rcases handled with shown | row
        · exact Option.some.inj shown
        · exact Option.some.inj row
      rw [chargedLedger_employee] at atHome ⊢
      have here := home_of_request found atHome
      have own : (chargedLedger ctx st existing).organization =
          existing.organization :=
        openedLedger_organization atHome here
      have within := TenantScope.permits_organization.1 visible
      rw [own, here, within]
      exact ⟨rfl, rfl⟩
  | @readBalance id e permitted found visible own =>
      obtain rfl : openedLedger ctx st e.id e.organization = b := by
        rcases handled with shown | row
        · exact Option.some.inj shown
        · exact Option.some.inj row
      rw [openedLedger_employee] at atHome ⊢
      have here := home_of_found found
      rw [openedLedger_organization atHome here, here,
        TenantScope.permits_organization.1 visible]
      exact ⟨rfl, rfl⟩
  | @settleAccrual input e b' _ permitted terms found visible settled =>
      obtain rfl : b' = b := by
        rcases handled with shown | row
        · exact Option.some.inj shown
        · exact Option.some.inj row
      rw [LeaveBalance.settle_employee settled, openedLedger_employee]
        at atHome ⊢
      have here := home_of_found found
      rw [LeaveBalance.settle_organization settled,
        openedLedger_organization atHome here, here,
        TenantScope.permits_organization.1 visible]
      exact ⟨rfl, rfl⟩
  | _ =>
      rcases handled with shown | row
      · cases shown
      · cases row

end Call

/-! ## Steps that move nobody -/

namespace Step

/-- A step takes an employee away from something that is theirs. -/
def Uproots (s : Step) (employee : String) : Prop :=
  ∃ home owner, s.before.home? employee = some home ∧
    s.before.Holds employee owner ∧ s.after.home? employee ≠ some home

private theorem holds_of_logs {st : Store} {audit : List AuditEntry}
    {events : List DomainEvent} {employee : String} {owner : Option String}
    (holds : Store.Holds { st with audit := audit, events := events }
      employee owner) : st.Holds employee owner := by
  cases holds with
  | ledger found =>
      exact .ledger found
  | leave kept own =>
      exact .leave kept own
  | schedule kept own =>
      exact .schedule kept own

/-- Whoever has nothing of elsewhere and is not taken away has nothing of
elsewhere afterwards. -/
theorem atHome_after {s : Step} {employee : String}
    (stays : ¬ s.Uproots employee) (atHome : s.before.AtHome employee) :
    s.after.AtHome employee := by
  intro owner holds
  -- What was there before is owned by where the employee was, and that is
  -- where the employee still is, or the step has taken them away from it.
  have settled : s.before.Holds employee owner →
      s.after.home? employee = some owner := by
    intro before
    by_contra away
    exact stays ⟨owner, owner, atHome owner before, before, away⟩
  rcases s.after_cases with
    ⟨_, audit, events, left⟩ |
    ⟨actor, scope, w, notice, reply, audit, events, _, does, left⟩
  · rw [left] at holds
    exact settled (holds_of_logs holds)
  · rw [left] at holds
    rcases Store.holds_write (holds_of_logs holds) with before | brought
    · exact settled before
    · obtain ⟨here, nobody⟩ := does.home_of_brings atHome brought
      have kept : s.after.employees = s.before.employees := by
        rw [left]
        simp [Store.write, nobody, Table.putAny]
      rw [Store.home?, kept]
      exact here

end Step

/-- Nobody is taken away by a step that leaves all employees as they are. -/
theorem Step.not_uproots {s : Step}
    (kept : ∀ e ∈ s.before.employees.rows, e ∈ s.after.employees.rows)
    (employee : String) : ¬ s.Uproots employee := by
  rintro ⟨home, owner, here, _, away⟩
  obtain ⟨e, found, own⟩ := Option.map_eq_some_iff.1 here
  have still := Table.mem_rows_iff.1 (kept e (Table.mem_of_get? found))
  rw [Table.key_of_get? found] at still
  rw [Store.home?, still] at away
  exact away (congrArg some own)

theorem Store.atHome_empty (employee : String) :
    Store.empty.AtHome employee := by
  intro owner holds
  cases holds with
  | ledger found => cases found
  | leave kept => cases kept
  | schedule kept => cases kept

/-- Whoever was never taken away from anything has nothing of elsewhere. -/
theorem Run.atHome {past : List Step} {st : Store} {employee : String}
    (run : Run past st) (stays : ∀ s ∈ past, ¬ s.Uproots employee) :
    st.AtHome employee := by
  -- By induction on the run: a step adds to what an employee has, or moves
  -- them, but never both.
  induction run with
  | start =>
      exact Store.atHome_empty employee
  | @step past s run new inductionHypothesis =>
      obtain ⟨last, earlier⟩ := List.forall_mem_cons.1 stays
      exact Step.atHome_after last (inductionHypothesis earlier)

/-! ## What an organization gets to do with ledgers -/

namespace Call

variable {ctx : Context} {st : Store}

theorem ledger?_of_looking {c : Call} {reply : Reply}
    (looks : c.looksOnly = true)
    (done : (c.effect ctx st).reply = .ok reply) : reply.ledger? = none := by
  cases c <;>
    first
    | exact absurd looks Bool.false_ne_true
    | obtain ⟨_, _, rfl⟩ := reading_eq_ok done
      rfl

end Call

namespace Step

/-- A step returns a ledger, or leaves it where it was not before. -/
def Handles (s : Step) (b : LeaveBalance) : Prop :=
  (∃ reply, s.reply = .ok reply ∧ reply.ledger? = some b) ∨
    (s.after.balances.get? b.employee = some b ∧
      s.before.balances.get? b.employee ≠ some b)

/-- A ledger that is handled is shown or written by a deed. -/
theorem does_of_handles {s : Step} {b : LeaveBalance} {actor : Actor}
    {home : String} (confined : s.ctx.ConfinedTo actor home)
    (handles : s.Handles b) :
    ∃ w notice reply,
      s.call.Does s.ctx s.before actor (.organization home) w notice reply ∧
        (reply.ledger? = some b ∨ w.balance = some b) := by
  have comes := s.call.effect_comes s.ctx s.before
  have looking := @Call.ledger?_of_looking s.ctx s.before s.call
  have left : s.after.balances =
      (s.call.effect s.ctx s.before).store.balances := by
    obtain ⟨audit, events, left⟩ := s.after_eq
    rw [left]
  have answered : s.reply = (s.call.effect s.ctx s.before).answered s.sinks :=
    Effect.record_reply _ s.sinks
  unfold Handles at handles
  rw [left, answered] at handles
  generalize s.call.effect s.ctx s.before = effect
    at comes looking handles
  have shown : (∃ reply, effect.reply = .ok reply ∧
      reply.ledger? = some b) ∨
      (effect.store.balances.get? b.employee = some b ∧
        s.before.balances.get? b.employee ≠ some b) := by
    rcases handles with ⟨reply, replied, ledger⟩ | written
    · exact Or.inl ⟨reply, Effect.reply_of_answered replied, ledger⟩
    · exact Or.inr written
  cases comes with
  | failed failure =>
      rcases shown with ⟨_, replied, _⟩ | ⟨after, before⟩
      · cases replied
      · exact absurd after before
  | looked reply only =>
      rcases shown with ⟨told, replied, ledger⟩ | ⟨after, before⟩
      · rw [looking only replied] at ledger
        cases ledger
      · exact absurd after before
  | warned authorized call conflict silent =>
      rcases shown with ⟨_, replied, _⟩ | ⟨after, before⟩
      · cases replied
      · exact absurd after before
  | halted authorized call does beyond =>
      rcases shown with ⟨_, replied, _⟩ | ⟨after, before⟩
      · cases replied
      · exact absurd after before
  | @done caller scope w notice reply authorized does =>
      obtain ⟨rfl, rfl⟩ := confined.of_authorize authorized
      refine ⟨w, notice, reply, does, ?_⟩
      rcases shown with ⟨told, replied, ledger⟩ | ⟨after, before⟩
      · cases replied
        exact Or.inl ledger
      · rcases Table.mem_rows_putAny (Table.mem_of_get? after) with kept | row
        · exact absurd (Table.mem_rows_iff.1 kept) before
        · exact Or.inr row

end Step

/-- What stands in the way of a call within an organization is owned by it, if
the employee has nothing of elsewhere. -/
theorem Call.Hindered.owner_eq {st : Store} {home employee : String}
    {owner : Option String} {c : Call}
    (hindered : c.Hindered st (.organization home) employee owner)
    (atHome : st.AtHome employee) : owner = some home := by
  have owned : st.Holds employee owner ∧
      st.home? employee = some (some home) := by
    cases hindered with
    | createLeave found visible listed =>
        have within := TenantScope.permits_organization.1 visible
        obtain ⟨active, _, _⟩ := Store.mem_overlappingLeave.1 listed
        obtain ⟨kept, own, _⟩ := Store.mem_activeLeave.1 active
        exact ⟨.leave kept own, within ▸ home_of_found found⟩
    | updateLeave found visible listed =>
        have within := TenantScope.permits_organization.1 visible
        obtain ⟨active, _, _⟩ := Store.mem_overlappingLeave.1 listed
        obtain ⟨kept, own, _⟩ := Store.mem_activeLeave.1 active
        exact ⟨.leave kept own, within ▸ home_of_request found atHome⟩
    | createSchedule found visible listed =>
        have within := TenantScope.permits_organization.1 visible
        obtain ⟨kept, matching⟩ := List.mem_filter.1 (mem_sortBy.1 listed)
        simp only [Bool.and_eq_true, beq_iff_eq] at matching
        exact ⟨.schedule kept matching.1, within ▸ home_of_found found⟩
  obtain ⟨holds, here⟩ := owned
  have same := atHome owner holds
  rw [here] at same
  exact (Option.some.inj same).symm

/-- With tenancy on, whatever was done before: as long as an employee was never
taken away from anything that is theirs, every ledger of the employee that a
call of an actor of an organization returns or changes is of the actor's own
organization, where the employee is too, and whatever of the employee such a
call is refused for is owned by that organization.  A call that is refused
because of an overlap has such a thing in its way in any case. -/
theorem handled_at_home {past : List Step} {s : Step} {actor : Actor}
    {home : String} (run : Run past s.before)
    (confined : s.ctx.ConfinedTo actor home) :
    (∀ b, s.Handles b → (∀ t ∈ past, ¬ t.Uproots b.employee) →
      b.organization = some home ∧
        s.before.home? b.employee = some (some home)) ∧
    ∀ fault, s.reply = Outcome.refuse fault → fault.isOverlap = true →
      ∃ employee owner,
        s.call.Hindered s.before (.organization home) employee owner ∧
          ((∀ t ∈ past, ¬ t.Uproots employee) → owner = some home) := by
  refine ⟨?_, ?_⟩
  · intro b handles stays
    obtain ⟨w, notice, reply, does, handled⟩ := Step.does_of_handles confined
      handles
    exact does.ledger_at_home handled (run.atHome stays)
  · intro fault refused overlap
    have answered : (s.call.effect s.ctx s.before).answered s.sinks =
        .error (.refused fault) :=
      (Effect.record_reply _ s.sinks).symm.trans refused
    rcases Effect.error_of_answered answered with ⟨message, storage⟩ | failed
    · cases storage
      cases overlap
    · obtain ⟨caller, scope, employee, owner, authorized, hindered⟩ :=
        Call.hindered_of_refused failed overlap
      obtain ⟨_, rfl⟩ := confined.of_authorize authorized
      exact ⟨employee, owner, hindered, fun stays =>
        hindered.owner_eq (run.atHome stays)⟩

/-!
## An employee who is moved

Two organizations are founded.  The first one engages somebody, asks for a day
of leave and looks at the ledger, which opens it.  Then the employee is moved
to the second one.
-/

/-- A step of an actor, with tenancy on. -/
def Actor.step (actor : Actor) (before : Store) (fresh : String)
    (call : Call) : Step :=
  { before
    ctx :=
      { config := { Config.standard with features := .allOn }
        actor := some actor
        now := ⟨0⟩
        fresh := fun _ => fresh }
    sinks := .working
    call }

/-- Whoever moves employees between organizations. -/
def platform : Actor :=
  { id := "platform-1", role := .system, organization := none }

def adminOf (home : String) : Actor :=
  { id := "adm-001", role := .admin, organization := some home }

theorem adminOf_confined (home : String) (before : Store) (fresh : String)
    (call : Call) :
    ((adminOf home).step before fresh call).ctx.ConfinedTo (adminOf home)
      home where
  tenancy := rfl
  caller := rfl
  role := nofun
  organization := rfl

def founding : Step :=
  platform.step Store.empty "ORG-1" (.createOrganization "A")

def foundingOther : Step :=
  platform.step founding.after "ORG-2" (.createOrganization "B")

def engaging : Step :=
  platform.step foundingOther.after "1"
    (.createEmployee ⟨"emp-001", some "ORG-1", none, none, none⟩)

/-- The employee is to have a day off. -/
def dayOff : Call :=
  .createLeave ⟨"emp-001", .annual, .ofInstant ⟨0⟩, .ofInstant ⟨0⟩, none⟩

def booking : Step :=
  (adminOf "ORG-1").step engaging.after "LR-1" dayOff

/-- An organization looks at the ledger of the employee. -/
def inspecting (before : Store) (home : String) : Step :=
  (adminOf home).step before "2" (.readBalance "emp-001")

def consulting : Step :=
  inspecting booking.after "ORG-1"

def transferring : Step :=
  platform.step consulting.after "3"
    (.updateEmployee "emp-001" ⟨some "ORG-2", none, none, none⟩)

/-- The steps until the employee is moved, the latest first. -/
def stayingRun : List Step :=
  [consulting, booking, engaging, foundingOther, founding]

/-- The steps with the one that moves the employee, the latest first. -/
def transferRun : List Step :=
  transferring :: stayingRun

theorem run_stayingRun : Run stayingRun consulting.after := by
  refine .step (.step (.step (.step (.step .start ?_) ?_) ?_) ?_) ?_
  · exact ⟨rfl, rfl, rfl, rfl, rfl⟩
  · exact ⟨rfl, rfl, rfl, rfl, by decide⟩
  · exact ⟨rfl, rfl, rfl, rfl, by decide⟩
  · exact ⟨rfl, rfl, rfl, rfl, by decide⟩
  · exact ⟨rfl, by decide, rfl, rfl, by decide⟩

theorem run_transferRun : Run transferRun transferring.after :=
  .step run_stayingRun ⟨rfl, by decide, rfl, rfl, by decide⟩

theorem stayingRun_stays (employee : String) :
    ∀ t ∈ stayingRun, ¬ t.Uproots employee := by
  simp only [stayingRun, List.forall_mem_cons]
  refine ⟨?_, ?_, ?_, ?_, ?_, List.forall_mem_nil _⟩
  all_goals exact Step.not_uproots (by decide) employee

def charging (before : Store) : Step :=
  (adminOf "ORG-1").step before "4" (.approveLeave "LR-1")

/-- An organization asks for the day again. -/
def rebooking (before : Store) (home : String) : Step :=
  (adminOf home).step before "LR-2" dayOff

/-- Before the move the first organization charges its own ledger, and what
keeps it from asking for the day again is its own request. -/
theorem handled_in_stayingRun :
    Run stayingRun consulting.after ∧
    (charging consulting.after).ctx.ConfinedTo (adminOf "ORG-1") "ORG-1" ∧
    (∃ b, (charging consulting.after).Handles b ∧
      b.organization = some "ORG-1" ∧
      consulting.after.home? b.employee = some (some "ORG-1")) ∧
    (rebooking consulting.after "ORG-1").reply =
      Outcome.refuse (.conflict "overlapping leave request exists") ∧
    ∃ employee owner, dayOff.Hindered consulting.after
      (.organization "ORG-1") employee owner ∧ owner = some "ORG-1" := by
  obtain ⟨ledgers, _⟩ := handled_at_home (s := charging consulting.after)
    run_stayingRun (adminOf_confined "ORG-1" _ _ _)
  obtain ⟨_, overlaps⟩ := handled_at_home
    (s := rebooking consulting.after "ORG-1") run_stayingRun
    (adminOf_confined "ORG-1" _ _ _)
  have refused : (rebooking consulting.after "ORG-1").reply =
      Outcome.refuse (.conflict "overlapping leave request exists") := rfl
  obtain ⟨b, charged⟩ : ∃ b, (charging consulting.after).Handles b :=
    ⟨_, Or.inl ⟨_, rfl, rfl⟩⟩
  obtain ⟨employee, owner, hindered, own⟩ := overlaps _ refused (by decide)
  exact ⟨run_stayingRun, adminOf_confined "ORG-1" _ _ _,
    ⟨b, charged, ledgers b charged (stayingRun_stays b.employee)⟩,
    refused, employee, owner, hindered, own (stayingRun_stays employee)⟩

/-- After the move the other organization is shown the ledger of the first,
and is kept from asking for a day though no request is its own; and the first
charges the ledger of an employee who has left it. -/
theorem handled_across_transferRun :
    Run transferRun transferring.after ∧
    ((inspecting transferring.after "ORG-2").ctx.ConfinedTo (adminOf "ORG-2")
        "ORG-2" ∧
      ∃ b, (inspecting transferring.after "ORG-2").Handles b ∧
        b.organization = some "ORG-1") ∧
    ((rebooking transferring.after "ORG-2").ctx.ConfinedTo (adminOf "ORG-2")
        "ORG-2" ∧
      (rebooking transferring.after "ORG-2").reply =
        Outcome.refuse (.conflict "overlapping leave request exists") ∧
      (∀ r ∈ transferring.after.leave.rows, r.organization ≠ some "ORG-2") ∧
      ∀ s ∈ transferring.after.schedules.rows,
        s.organization ≠ some "ORG-2") ∧
    (charging transferring.after).ctx.ConfinedTo (adminOf "ORG-1") "ORG-1" ∧
      ∃ b, (charging transferring.after).Handles b ∧
        transferring.after.home? b.employee = some (some "ORG-2") := by
  refine ⟨run_transferRun, ⟨adminOf_confined "ORG-2" _ _ _, ?_⟩,
    ⟨adminOf_confined "ORG-2" _ _ _, rfl, by decide, by decide⟩,
    adminOf_confined "ORG-1" _ _ _, ?_⟩
  · exact ⟨_, Or.inl ⟨_, rfl, rfl⟩, rfl⟩
  · exact ⟨_, Or.inl ⟨_, rfl, rfl⟩, rfl⟩

end Workforce
