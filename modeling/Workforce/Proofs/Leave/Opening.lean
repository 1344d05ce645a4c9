import Mathlib.Data.List.Forall2
import Workforce.Proofs.Leave.Independence
import Workforce.Proofs.Run

/-!
# Looking at a ledger makes no difference

A ledger is made when it is first asked for: when somebody looks at it, when
leave is approved or when a year is settled.  A look is the only one of these
that should change nothing.  This module shows that it does so:

* of two stores one may have ledgers that the other has not opened yet, and
  the ledgers of both may differ in their organizations and times
  (`Store.OpenedAhead`);
* an operation replies the same in both, but for these two fields of a ledger,
  and leaves stores that are so related again;
* a look at a ledger only opens it ahead.

By induction the same holds of two histories of which one has more looks in
it than the other, wherever they are put in and whoever takes them.
-/

namespace Workforce

open Service
open Outcome (ensure_eq_ok)
open TenantScope (visible_eq_ok)

/-! ## Ledgers -/

namespace LeaveBalance

/-- Two ledgers that differ at most in the organization and in the time of the
last change. -/
def Alike (b c : LeaveBalance) : Prop :=
  c = { b with organization := c.organization, updatedAt := c.updatedAt }

/-- A ledger that holds a grant and nothing else. -/
def IsFresh (b : LeaveBalance) (grantedDays : Int) : Prop :=
  b = fresh b.employee b.organization grantedDays b.updatedAt

theorem Alike.employee {b c : LeaveBalance} (alike : b.Alike c) :
    c.employee = b.employee := by
  rw [alike]

/-- Ledgers that are alike are charged alike. -/
theorem Alike.use {b c : LeaveBalance} (alike : b.Alike c) (days : Int)
    (now : Instant) : (b.use days now).Alike (c.use days now) := by
  rw [alike]
  rfl

end LeaveBalance

/-- `LedgersAhead grantedDays first second`: the second table has all ledgers
of the first, and those that it has besides are fresh. -/
structure LedgersAhead (grantedDays : Int)
    (first second : Table LeaveBalance) : Prop where
  kept : ∀ employee b, first.get? employee = some b →
    ∃ c, second.get? employee = some c ∧ b.Alike c
  ahead : ∀ employee c, first.get? employee = none →
    second.get? employee = some c → c.IsFresh grantedDays

/-- `st.OpenedAhead grantedDays other`: the other store is the same but for
its audit log and for ledgers that were opened ahead. -/
def Store.OpenedAhead (grantedDays : Int) (st other : Store) : Prop :=
  ∃ ledgers audit, other = st.withLedgers ledgers audit ∧
    LedgersAhead grantedDays st.balances ledgers

namespace LedgersAhead

variable {grantedDays : Int} {first second : Table LeaveBalance}

theorem refl (t : Table LeaveBalance) : LedgersAhead grantedDays t t where
  kept _ b found := ⟨b, found, rfl⟩
  ahead _ c missing found := by
    rw [missing] at found
    cases found

/-- Ledgers that are alike may be kept on both sides. -/
theorem put (law : LedgersAhead grantedDays first second)
    {b c : LeaveBalance} (alike : b.Alike c) :
    LedgersAhead grantedDays (first.put b) (second.put c) := by
  have same : Keyed.key c = Keyed.key b := alike.employee
  constructor
  · intro employee old found
    rw [Table.get?_put] at found
    rw [Table.get?_put, same]
    split at found
    · cases found
      rename_i here
      exact ⟨c, if_pos here, alike⟩
    · rename_i other
      rw [if_neg other]
      exact law.kept employee old found
  · intro employee old missing found
    rw [Table.get?_put] at missing
    rw [Table.get?_put, same] at found
    split at missing
    · cases missing
    · rename_i other
      rw [if_neg other] at found
      exact law.ahead employee old missing found

/-- The ledger of an employee is the same in both, whether it is there already
or is made now. -/
theorem alike (law : LedgersAhead grantedDays first second)
    (employee : String) (organization : Option String) (now : Instant) :
    LeaveBalance.Alike
      ((first.get? employee).getD
        (.fresh employee organization grantedDays now))
      ((second.get? employee).getD
        (.fresh employee organization grantedDays now)) := by
  cases found : first.get? employee with
  | some b =>
      obtain ⟨c, here, alike⟩ := law.kept employee b found
      rw [here]
      exact alike
  | none =>
      cases here : second.get? employee with
      | none =>
          rfl
      | some c =>
          have own : c.employee = employee := Table.key_of_get? here
          rw [← own]
          exact law.ahead employee c found here

/-- The second table may open a ledger that the first has not. -/
theorem put_opened (law : LedgersAhead grantedDays first second)
    (employee : String) (organization : Option String) (now : Instant) :
    LedgersAhead grantedDays first
      (second.put ((second.get? employee).getD
        (.fresh employee organization grantedDays now))) := by
  cases here : second.get? employee with
  | some c =>
      -- The ledger is there, and is put in the place where it stands.
      rw [Option.getD_some, Table.put_of_get? (Table.get?_key here)]
      exact law
  | none =>
      constructor
      · intro other b found
        obtain ⟨c, kept, alike⟩ := law.kept other b found
        refine ⟨c, ?_, alike⟩
        rw [Option.getD_none, Table.get?_put_of_ne]
        · exact kept
        · rintro rfl
          rw [show second.get? employee = some c from kept] at here
          cases here
      · intro other c missing found
        rw [Option.getD_none, Table.get?_put] at found
        split at found
        · cases found
          rfl
        · exact law.ahead other c missing found

end LedgersAhead

/-! ## Related outcomes -/

/-- Two outcomes that fail alike, or have related values. -/
inductive Outcome.Related {α β : Type} (R : α → β → Prop) :
    Outcome α → Outcome β → Prop
  | error (failure : Failure) :
      Related R (.error failure) (.error failure)
  | ok {a : α} {b : β} (values : R a b) : Related R (.ok a) (.ok b)

namespace Outcome.Related

variable {α β γ : Type}

theorem of_eq {R : α → α → Prop} (refl : ∀ a, R a a) (x : Outcome α) :
    Related R x x := by
  cases x with
  | error failure =>
      exact .error failure
  | ok a =>
      exact .ok (refl a)

/-- After one check, chains are related as their rests are. -/
theorem after {R : α → β → Prop} {x : Outcome γ} {f : γ → Outcome α}
    {g : γ → Outcome β} (rest : ∀ c, Related R (f c) (g c)) :
    Related R (x >>= f) (x >>= g) := by
  cases x with
  | error failure =>
      exact .error failure
  | ok c =>
      exact rest c

theorem map {R : α → β → Prop} {α' β' : Type} {Q : α' → β' → Prop}
    {x : Outcome α} {y : Outcome β} {f : α → α'} {g : β → β'}
    (related : Related R x y) (values : ∀ {a b}, R a b → Q (f a) (g b)) :
    Related Q (x.map f) (y.map g) := by
  cases related with
  | error failure =>
      exact .error failure
  | ok pair =>
      exact .ok (values pair)

end Outcome.Related

open Outcome (Related)

/-- Ledgers that are alike are settled alike. -/
theorem LeaveBalance.Alike.settle {b c : LeaveBalance} (alike : b.Alike c)
    (terms : Settlement) (now : Instant) :
    Related Alike (b.settle terms now) (c.settle terms now) := by
  rw [alike]
  exact .after fun _ => .ok rfl

/-- Two approvals that differ at most in these fields of the ledger. -/
structure LeaveApproval.Alike (a b : LeaveApproval) : Prop where
  request : b.request = a.request
  balance : a.balance.Alike b.balance

/-- Two replies that differ at most in these fields of a ledger. -/
inductive Reply.Alike : Reply → Reply → Prop
  | same (r : Reply) : Alike r r
  | balance {b c : LeaveBalance} (ledgers : b.Alike c) :
      Alike (.balance b) (.balance c)
  | approval {a b : LeaveApproval} (approvals : a.Alike b) :
      Alike (.approval a) (.approval b)

/-! ## One call in two stores -/

/-- Effects that tell the same, reply related values and leave stores of which
one has ledgers ahead. -/
structure Effect.OpenedAhead {α : Type} (grantedDays : Int)
    (R : α → α → Prop) (e f : Effect α) : Prop where
  notice : f.notice = e.notice
  reply : Related R e.reply f.reply
  store : e.store.OpenedAhead grantedDays f.store

namespace Store.OpenedAhead

variable {grantedDays : Int} {st other : Store}

theorem refl (st : Store) : st.OpenedAhead grantedDays st :=
  ⟨st.balances, st.audit, rfl, .refl st.balances⟩

theorem ledger (law : st.OpenedAhead grantedDays other) (employee : String)
    (organization : Option String) (now : Instant) :
    (st.ledger employee organization grantedDays now).Alike
      (other.ledger employee organization grantedDays now) := by
  obtain ⟨ledgers, audit, rfl, law⟩ := law
  exact law.alike employee organization now

/-- One write with ledgers that are alike. -/
theorem write (law : st.OpenedAhead grantedDays other) (w : Write)
    {b c : LeaveBalance} (alike : b.Alike c) :
    (st.write { w with balance := some b }).OpenedAhead grantedDays
      (other.write { w with balance := some c }) := by
  obtain ⟨ledgers, audit, rfl, law⟩ := law
  exact ⟨ledgers.put c, audit, rfl, law.put alike⟩

/-- To open a ledger in one store only is to open it ahead. -/
theorem open_ledger (law : st.OpenedAhead grantedDays other)
    (employee : String) (organization : Option String) (now : Instant) :
    st.OpenedAhead grantedDays
      (other.putBalance
        (other.ledger employee organization grantedDays now)) := by
  obtain ⟨ledgers, audit, rfl, law⟩ := law
  exact ⟨_, audit, rfl, law.put_opened employee organization now⟩

/-- What is entered in the audit log does not matter. -/
theorem logs (law : st.OpenedAhead grantedDays other)
    (first second : List AuditEntry) (events : List DomainEvent) :
    { st with
      audit := first
      events := st.events ++ events }.OpenedAhead grantedDays
      { other with
        audit := second
        events := other.events ++ events } := by
  obtain ⟨ledgers, audit, rfl, law⟩ := law
  exact ⟨ledgers, second, rfl, law⟩

/-- An entry of which no event tells may be in one audit log only. -/
theorem audited (law : st.OpenedAhead grantedDays other)
    (audit : List AuditEntry) :
    st.OpenedAhead grantedDays
      { other with audit, events := other.events ++ [] } := by
  obtain ⟨ledgers, _, rfl, law⟩ := law
  rw [List.append_nil]
  exact ⟨ledgers, audit, rfl, law⟩

end Store.OpenedAhead

/-- Changes with related values that leave stores of which one has ledgers
ahead. -/
structure ChangedAhead {α : Type} (grantedDays : Int) (R : α → α → Prop)
    (x y : Outcome α × Store) : Prop where
  values : Related R x.1 y.1
  stores : x.2.OpenedAhead grantedDays y.2

namespace Store.OpenedAhead

variable {grantedDays : Int} {st other : Store}

theorem settleBalance (law : st.OpenedAhead grantedDays other)
    (employee : String) (organization : Option String) (terms : Settlement)
    (now : Instant) :
    ChangedAhead grantedDays LeaveBalance.Alike
      (st.settleBalance employee organization terms grantedDays now)
      (other.settleBalance employee organization terms grantedDays now) := by
  have settled := (law.ledger employee organization now).settle terms now
  rw [settleBalance_eq_write, settleBalance_eq_write]
  generalize (st.ledger employee organization grantedDays now).settle terms
    now = x at settled ⊢
  generalize (other.ledger employee organization grantedDays now).settle terms
    now = y at settled ⊢
  cases settled with
  | error failure =>
      exact ⟨.error failure, law⟩
  | ok alike =>
      exact ⟨.ok alike, law.write {} alike⟩

theorem approveLeave (law : st.OpenedAhead grantedDays other)
    (r : LeaveRequest) (d : LeaveDecision) (now : Instant) :
    ChangedAhead grantedDays LeaveApproval.Alike
      (st.approveLeave r d grantedDays now)
      (other.approveLeave r d grantedDays now) := by
  have charged := (law.ledger r.employee r.organization now).use r.days now
  have written := law.write { leave := some r, decision := some d } charged
  have unchanged := law
  obtain ⟨ledgers, audit, rfl, _⟩ := law
  cases pending : st.isPendingLeave r.id with
  | true =>
      obtain ⟨old, found, isPending⟩ := (Option.any_eq_true _ _).1 pending
      have state := eq_of_beq isPending
      have here : (st.withLedgers ledgers audit).leave.get? r.id = some old :=
        found
      rw [approveLeave_of_pending d grantedDays now found state,
        approveLeave_of_pending d grantedDays now here state]
      exact ⟨.ok ⟨rfl, charged⟩, written⟩
  | false =>
      have closed : (st.withLedgers ledgers audit).isPendingLeave r.id =
        false := pending
      simp only [Store.approveLeave, recordDecision, pending, closed]
      exact ⟨.error _, unchanged⟩

end Store.OpenedAhead

/-- Changes that leave such stores, with values of which the same is told. -/
theorem Effect.OpenedAhead.ofChange {α : Type} {grantedDays : Int}
    {R : α → α → Prop} {x y : Outcome α × Store} {tell : α → Notice}
    (changes : ChangedAhead grantedDays R x y)
    (told : ∀ a b, R a b → tell b = tell a) :
    Effect.OpenedAhead grantedDays R (ofChange x tell) (ofChange y tell) := by
  obtain ⟨values, stores⟩ := changes
  obtain ⟨result, st⟩ := x
  obtain ⟨other, left⟩ := y
  cases values with
  | error failure =>
      exact ⟨rfl, .error failure, stores⟩
  | ok pair =>
      exact ⟨congrArg some (told _ _ pair), .ok pair, stores⟩

section Ledgers

variable {ctx : Context} {st other : Store}

theorem readBalance_openedAhead
    (law : st.OpenedAhead ctx.config.leave.grantedDays other) (id : String) :
    Related
      (Effect.OpenedAhead ctx.config.leave.grantedDays LeaveBalance.Alike)
      (readBalance ctx st id) (readBalance ctx other id) := by
  have alike := law.ledger
  have written := @law.write
  obtain ⟨ledgers, audit, rfl, _⟩ := law
  refine .after fun _ => .after fun _ => .after fun employee =>
    .after fun _ => ?_
  have opened := alike employee.id employee.organization ctx.now
  rw [Store.openBalance_eq_write, Store.openBalance_eq_write]
  exact .ok ⟨rfl, .ok opened, written {} opened⟩

theorem settleAccrual_openedAhead
    (law : st.OpenedAhead ctx.config.leave.grantedDays other)
    (input : AccrualInput) :
    Related
      (Effect.OpenedAhead ctx.config.leave.grantedDays LeaveBalance.Alike)
      (settleAccrual ctx st input) (settleAccrual ctx other input) := by
  have settled := law.settleBalance
  obtain ⟨ledgers, audit, rfl, _⟩ := law
  refine .after fun _ => .after fun _ => .after fun _ => .after fun _ =>
    .ok (.ofChange (settled _ _ _ _) ?_)
  intro b c alike
  rw [alike]

theorem approveLeave_openedAhead
    (law : st.OpenedAhead ctx.config.leave.grantedDays other) (id : String) :
    Related
      (Effect.OpenedAhead ctx.config.leave.grantedDays LeaveApproval.Alike)
      (approveLeave ctx st id) (approveLeave ctx other id) := by
  have approved := law.approveLeave
  obtain ⟨ledgers, audit, rfl, _⟩ := law
  refine .after fun _ => .after fun _ => .after fun _ => .after fun _ =>
    .ok (.ofChange (approved _ _ _) ?_)
  intro a b alike
  rw [alike.request, alike.balance]

end Ledgers

namespace Call

/-- An operation whose ledgers are alike replies alike. -/
theorem changing_openedAhead {α : Type} {grantedDays : Int}
    {st other : Store} (law : st.OpenedAhead grantedDays other)
    {R : α → α → Prop} {reply : α → Reply} {x y : Outcome (Effect α)}
    (effects : Related (Effect.OpenedAhead grantedDays R) x y)
    (replies : ∀ {a b}, R a b → (reply a).Alike (reply b)) :
    Effect.OpenedAhead grantedDays Reply.Alike (changing st x reply)
      (changing other y reply) := by
  cases effects with
  | error failure =>
      exact ⟨rfl, .error failure, law⟩
  | ok pair =>
      exact ⟨pair.notice, pair.reply.map replies, pair.store⟩

/-- A call comes to the same in both stores, but for the organizations and the
times of ledgers. -/
theorem effect_openedAhead {ctx : Context} {st other : Store}
    (law : st.OpenedAhead ctx.config.leave.grantedDays other) (c : Call) :
    Effect.OpenedAhead ctx.config.leave.grantedDays Reply.Alike
      (c.effect ctx st) (c.effect ctx other) := by
  cases asks : c.opensLedger with
  | false =>
      obtain ⟨ledgers, audit, rfl, law⟩ := law
      rw [effect_withLedgers asks]
      refine ⟨rfl, .of_eq .same _, ledgers, audit, rfl, ?_⟩
      rw [balances_of_apart asks]
      exact law
  | true =>
      cases c with
      | approveLeave id =>
          exact changing_openedAhead law (approveLeave_openedAhead law id)
            .approval
      | readBalance id =>
          exact changing_openedAhead law (readBalance_openedAhead law id)
            .balance
      | settleAccrual input =>
          exact changing_openedAhead law
            (settleAccrual_openedAhead law input) .balance
      | _ =>
          cases asks

/-- With both sinks in order, it is carried out alike too. -/
theorem perform_openedAhead {ctx : Context} {st other : Store}
    (law : st.OpenedAhead ctx.config.leave.grantedDays other) (c : Call) :
    Related Reply.Alike (c.perform ctx .working st).1
        (c.perform ctx .working other).1 ∧
      (c.perform ctx .working st).2.OpenedAhead
        ctx.config.leave.grantedDays (c.perform ctx .working other).2 := by
  have effects := effect_openedAhead law c
  rw [perform, perform, Effect.record_working, Effect.record_working,
    effects.notice]
  exact ⟨effects.reply, effects.store.logs _ _ _⟩

/-- A look at a ledger opens it ahead, if it does anything. -/
theorem look_openedAhead {ctx : Context} {st other : Store}
    (law : st.OpenedAhead ctx.config.leave.grantedDays other) (id : String) :
    st.OpenedAhead ctx.config.leave.grantedDays
      ((readBalance id).perform ctx .working other).2 := by
  have comes := effect_comes ctx other (.readBalance id)
  rw [perform, Effect.record_working]
  generalize (readBalance id).effect ctx other = e at comes
  cases comes with
  | failed failure =>
      exact law.audited _
  | looked reply only =>
      cases only
  | warned authorized call conflict silent =>
      cases call
  | halted authorized call does beyond =>
      cases call
  | done authorized does =>
      cases does with
      | @readBalance _ employee permitted found visible own =>
          have opened := law.open_ledger employee.id employee.organization
            ctx.now
          rw [Store.putBalance_eq_write] at opened
          exact opened.audited _

end Call

/-! ## Histories -/

/-- A call, or a look at a ledger that somebody takes besides. -/
inductive Visit where
  | call (ctx : Context) (c : Call)
  | look (ctx : Context) (employee : String)

namespace Visit

def ctx : Visit → Context
  | call ctx _ => ctx
  | look ctx _ => ctx

def isCall : Visit → Bool
  | call _ _ => true
  | look _ _ => false

end Visit

/-- The replies to the calls of a history, the first of them first, and the
store that it leaves.  Both sinks are in order. -/
def attend : List Visit → Store → List (Outcome Reply) × Store
  | [], st => ([], st)
  | .call ctx c :: rest, st =>
    let (reply, st) := c.perform ctx .working st
    let (replies, st) := attend rest st
    (reply :: replies, st)
  | .look ctx employee :: rest, st =>
    attend rest ((Call.readBalance employee).perform ctx .working st).2

/-- Two histories that differ by looks, from stores of which one has ledgers
ahead. -/
theorem attend_openedAhead {grantedDays : Int} {st other : Store}
    (law : st.OpenedAhead grantedDays other) (h : List Visit)
    (configured : ∀ v ∈ h, v.ctx.config.leave.grantedDays = grantedDays) :
    List.Forall₂ (Related Reply.Alike) (attend (h.filter Visit.isCall) st).1
        (attend h other).1 ∧
      (attend (h.filter Visit.isCall) st).2.OpenedAhead grantedDays
        (attend h other).2 := by
  induction h generalizing st other with
  | nil =>
      exact ⟨.nil, law⟩
  | cons v rest inductionHypothesis =>
      have terms := configured v List.mem_cons_self
      have later : ∀ v ∈ rest, v.ctx.config.leave.grantedDays =
          grantedDays := fun v member =>
        configured v (List.mem_cons_of_mem _ member)
      subst terms
      -- A call is carried out in both stores, and a look in one only.
      cases v with
      | call ctx c =>
          obtain ⟨reply, stores⟩ := Call.perform_openedAhead law c
          obtain ⟨replies, left⟩ := inductionHypothesis stores later
          exact ⟨.cons reply replies, left⟩
      | look ctx employee =>
          exact inductionHypothesis (Call.look_openedAhead law employee) later

/-- Looks at ledgers make no difference to a history under one configuration,
however many there are, wherever they stand and whoever takes them.  With and
without them the calls are replied to alike, but for the organization and the
time of a ledger.  All tables and logs are left alike but for the ledgers and
the audit log: of the ledgers those that are left without the looks are left
with them, and any other is fresh. -/
theorem attend_of_looks (config : Config) (h : List Visit)
    (configured : ∀ v ∈ h, v.ctx.config = config) (st : Store) :
    List.Forall₂ (Related Reply.Alike) (attend (h.filter Visit.isCall) st).1
        (attend h st).1 ∧
      (attend (h.filter Visit.isCall) st).2.OpenedAhead
        config.leave.grantedDays (attend h st).2 := by
  refine attend_openedAhead (.refl st) h ?_
  intro v member
  rw [configured v member]

/-- An admin under the standard configuration, at some time. -/
def officeAt (time : Int) : Context :=
  { approving.ctx with now := ⟨time⟩ }

/-- Two are hired and both ledgers are looked at.  Then one of them is asked
for. -/
def peeking : List Visit :=
  [.call (officeAt 0) (.createEmployee ⟨"emp-001", none, none, none, none⟩),
    .call (officeAt 0) (.createEmployee ⟨"emp-002", none, none, none, none⟩),
    .look (officeAt 1) "emp-001", .look (officeAt 1) "emp-002",
    .call (officeAt 2) (.readBalance "emp-001")]

/-- The ledger that is asked for is older with the looks than without them,
and there is one more.  That is all. -/
theorem attend_of_peeking :
    ((attend peeking .empty).2.balances.rows.map fun b =>
        (b.employee, b.updatedAt)) = [("emp-001", ⟨1⟩), ("emp-002", ⟨1⟩)] ∧
    ((attend (peeking.filter Visit.isCall) .empty).2.balances.rows.map
        fun b => (b.employee, b.updatedAt)) = [("emp-001", ⟨2⟩)] ∧
    List.Forall₂ (Related Reply.Alike)
      (attend (peeking.filter Visit.isCall) .empty).1
      (attend peeking .empty).1 ∧
    (attend (peeking.filter Visit.isCall) .empty).2.OpenedAhead
      Config.standard.leave.grantedDays (attend peeking .empty).2 := by
  have configured : ∀ v ∈ peeking, v.ctx.config = Config.standard := by
    simp only [peeking, List.forall_mem_cons]
    exact ⟨rfl, rfl, rfl, rfl, rfl, List.forall_mem_nil _⟩
  exact ⟨by decide, by decide,
    attend_of_looks Config.standard peeking configured .empty⟩

end Workforce
