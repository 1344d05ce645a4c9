import Workforce.Proofs.Leave.Ledger

/-!
# Every year is settled once

A ledger bears the year that was settled last.  This module follows that year
through a run whose sinks are in order:

* only a settlement that succeeds changes it, and each one raises it, so that
  the years settled for an employee rise from one settlement to the next;
* a settlement that is valid and permitted succeeds exactly if the employee
  has no ledger yet, or one that bears no year or an earlier one
  (`Store.YearOpen`), and is otherwise a conflict that changes nothing;
* after it nothing is used, and what is carried over is neither a debt nor
  more than the cap.

What ties the ledgers to the run is that the year a ledger bears is the latest
of the years that were settled.
-/

namespace Workforce

/-! ## Years -/

/-- The year that was settled last for an employee, as the ledger has it. -/
def Store.lastYear? (st : Store) (employee : String) : Option Int :=
  (st.balances.get? employee).bind LeaveBalance.lastAccrualYear

/-- A year that may be settled for an employee: there is no ledger yet, or it
bears no year or an earlier one. -/
def Store.YearOpen (st : Store) (employee : String) (year : Int) : Prop :=
  ∀ last, st.lastYear? employee = some last → last < year

/-- The years that were settled for an employee, the latest first. -/
def settledYears (employee : String) (past : List Step) : List Int :=
  past.filterMap fun s => (s.settlement? employee).map Settlement.year

/-- The days that a settlement carries over for an employee: what remains,
but no debt and no more than the cap. -/
def Store.carriedOver (st : Store) (employee : String) (grantedDays : Int)
    (terms : Settlement) : Int :=
  min terms.carryOverCapDays (max 0 (st.remainingDays employee grantedDays))

/-- A ledger at the start of a year: the annual grant and the days carried over
are granted, and none of them is used.  The days carried over are no debt and no
more than the cap. -/
structure LeaveBalance.StartsYear (b : LeaveBalance) (terms : Settlement) :
    Prop where
  unused : b.usedDays = 0
  year : b.lastAccrualYear = some terms.year
  granted : b.grantedDays = terms.annualGrantDays + b.carryOverDays
  remaining : b.remainingDays = b.grantedDays
  noDebt : 0 ≤ b.carryOverDays
  capped : b.carryOverDays ≤ terms.carryOverCapDays

/-! ## Settling a ledger -/

theorem Settlement.of_eq_ok {year annualGrantDays carryOverCapDays : Int}
    {terms : Settlement} :
    Settlement.of year annualGrantDays carryOverCapDays = .ok terms ↔
      (2000 ≤ year ∧ year ≤ 9999) ∧ 0 < annualGrantDays ∧
        0 ≤ carryOverCapDays ∧
        { year, annualGrantDays, carryOverCapDays } = terms := by
  simp only [Settlement.of, Outcome.bind_eq_ok, Outcome.ensure_eq_ok,
    Outcome.pure_eq_ok]
  constructor
  · rintro ⟨_, digits, _, grant, _, cap, same⟩
    exact ⟨digits, grant, cap, same⟩
  · rintro ⟨digits, grant, cap, same⟩
    exact ⟨(), digits, (), grant, (), cap, same⟩

namespace LeaveBalance

variable {b after : LeaveBalance} {terms : Settlement} {now : Instant}

theorem isSettledFor_eq_false {year : Int} :
    b.isSettledFor year = false ↔
      ∀ last, b.lastAccrualYear = some last → last < year := by
  unfold isSettledFor
  cases b.lastAccrualYear with
  | none =>
      simp
  | some last =>
      simp

/-- A settlement is accepted exactly if its year comes after the last. -/
theorem settle_accepted_iff :
    (∃ after, b.settle terms now = .ok after) ↔
      ∀ last, b.lastAccrualYear = some last → last < terms.year := by
  rw [← isSettledFor_eq_false]
  constructor
  · rintro ⟨after, accepted⟩
    simp only [settle, Outcome.bind_eq_ok, Outcome.ensure_eq_ok] at accepted
    obtain ⟨_, unsettled, _⟩ := accepted
    simpa using unsettled
  · intro unsettled
    have passes : (!b.isSettledFor terms.year) = true := by
      rw [unsettled]
      rfl
    rw [settle, Outcome.ensure_of passes]
    exact ⟨_, rfl⟩

theorem settle_of_settled (settled : b.isSettledFor terms.year = true) :
    b.settle terms now = Outcome.refuse (.conflict
      "leave accrual already settled for the same or newer year") := by
  have fails : ¬ (!b.isSettledFor terms.year) = true := by
    rw [settled]
    exact Bool.false_ne_true
  rw [settle, Outcome.ensure_of_not fails]
  rfl

theorem startsYear_of_settle (accepted : b.settle terms now = .ok after)
    (cap : 0 ≤ terms.carryOverCapDays) : after.StartsYear terms := by
  have carried : 0 ≤ b.carriedOver terms ∧
      b.carriedOver terms ≤ terms.carryOverCapDays := by
    unfold carriedOver
    omega
  rw [settle_eq_ok accepted]
  exact ⟨rfl, rfl, rfl, rfl, carried.1, carried.2⟩

end LeaveBalance

namespace Store

theorem ledger_lastYear (st : Store) (employee : String)
    (organization : Option String) (grantedDays : Int) (now : Instant) :
    (st.ledger employee organization grantedDays now).lastAccrualYear =
      st.lastYear? employee := by
  unfold ledger lastYear?
  cases st.balances.get? employee with
  | none =>
      rfl
  | some b =>
      rfl

theorem ledger_carriedOver (st : Store) (employee : String)
    (organization : Option String) (grantedDays : Int) (now : Instant)
    (terms : Settlement) :
    (st.ledger employee organization grantedDays now).carriedOver terms =
      st.carriedOver employee grantedDays terms := by
  rw [LeaveBalance.carriedOver, ledger_remainingDays, carriedOver]
  omega

theorem lastYear?_of_put {before after : Store} {b : LeaveBalance}
    (balances : after.balances = before.balances.put b) (employee : String) :
    after.lastYear? employee =
      if b.employee = employee then b.lastAccrualYear
      else before.lastYear? employee := by
  unfold lastYear?
  rw [balances, Table.get?_put, show Keyed.key b = b.employee from rfl]
  by_cases own : b.employee = employee
  · rw [if_pos own, if_pos own]
    rfl
  · rw [if_neg own, if_neg own]

/-- A ledger that is put in with the year that was there changes no year. -/
theorem lastYear?_of_put_same {before after : Store} {b : LeaveBalance}
    (balances : after.balances = before.balances.put b)
    (same : b.lastAccrualYear = before.lastYear? b.employee)
    (employee : String) :
    after.lastYear? employee = before.lastYear? employee := by
  rw [lastYear?_of_put balances]
  by_cases own : b.employee = employee
  · rw [if_pos own, same, own]
  · rw [if_neg own]

end Store

/-! ## One step -/

namespace Step

open Call (openedLedger chargedLedger settlementTerms)

variable {s : Step} {employee : String} {terms : Settlement}

/-- What a settlement that succeeded has done, whatever became of telling
it. -/
theorem settled_of_settlement?
    (settlement : s.settlement? employee = some terms) :
    ∃ organization b, 0 < terms.annualGrantDays ∧
      0 ≤ terms.carryOverCapDays ∧
      (openedLedger s.ctx s.before employee organization).settle terms
        s.ctx.now = .ok b ∧
      s.after.balances = s.before.balances.put b := by
  unfold settlement? at settlement
  split at settlement
  · rename_i input call
    split at settlement
    · rename_i asked
      obtain ⟨rfl, succeeded⟩ := asked
      cases settlement
      rcases s.after_cases with
        ⟨looks, _⟩ |
        ⟨actor, scope, w, notice, reply, audit, events, _, does, left⟩
      · have only := looks succeeded
        rw [call] at only
        cases only
      · rw [call] at does
        cases does with
        | @settleAccrual _ worker b _ permitted valid found visible settled =>
            have same : worker.id = input.employee := Table.key_of_get? found
            rw [same] at settled
            obtain ⟨_, grant, cap, _⟩ := Settlement.of_eq_ok.1 valid
            refine ⟨worker.organization, b, grant, cap, settled, ?_⟩
            rw [left]
            rfl
    · cases settlement
  · cases settlement

/-- A settlement raises the year of its employee's ledger, which starts the
year. -/
theorem startsYear_of_settlement?
    (settlement : s.settlement? employee = some terms) :
    s.before.YearOpen employee terms.year ∧ 0 < terms.annualGrantDays ∧
      ∃ b, s.after.balances.get? employee = some b ∧ b.StartsYear terms := by
  obtain ⟨organization, b, grant, cap, accepted, balances⟩ :=
    settled_of_settlement? settlement
  have own : b.employee = employee := by
    rw [LeaveBalance.settle_employee accepted, Call.openedLedger_employee]
  refine ⟨?_, grant, b, ?_, LeaveBalance.startsYear_of_settle accepted cap⟩
  · have rises := LeaveBalance.settle_accepted_iff.1 ⟨b, accepted⟩
    rw [openedLedger, Store.ledger_lastYear] at rises
    exact rises
  · rw [balances, ← own]
    exact Table.get?_put_self _ b

/-- Any other step leaves the year as it was. -/
theorem LeaveDeed.lastYear?_of_unsettled (deed : s.LeaveDeed)
    (unsettled : s.settlement? employee = none) :
    s.after.lastYear? employee = s.before.lastYear? employee := by
  have ofSame : s.after.balances = s.before.balances →
      s.after.lastYear? employee = s.before.lastYear? employee := by
    intro same
    rw [Store.lastYear?, same]
    rfl
  cases deed with
  | kept _ leave balances =>
      exact ofSame balances
  | edited _ leave balances undecided pending =>
      exact ofSame balances
  | opened _ leave balances =>
      apply Store.lastYear?_of_put_same balances
      rw [Call.openedLedger_employee]
      exact Store.ledger_lastYear _ _ _ _ _
  | approved _ found pending leave balances =>
      apply Store.lastYear?_of_put_same balances
      rw [Call.chargedLedger_employee]
      exact Store.ledger_lastYear _ _ _ _ _
  | @settled owner organization terms b settles accepted leave balances =>
      have foreign : b.employee ≠ employee := by
        rw [LeaveBalance.settle_employee accepted, Call.openedLedger_employee]
        intro own
        rw [settles employee, if_pos own] at unsettled
        cases unsettled
      rw [Store.lastYear?_of_put balances, if_neg foreign]

end Step

/-! ## Runs -/

theorem settledYears_of_unsettled {s : Step} {employee : String}
    (unsettled : s.settlement? employee = none) (past : List Step) :
    settledYears employee (s :: past) = settledYears employee past := by
  simp [settledYears, unsettled]

theorem settledYears_of_settlement? {s : Step} {employee : String}
    {terms : Settlement} (settlement : s.settlement? employee = some terms)
    (past : List Step) :
    settledYears employee (s :: past) =
      terms.year :: settledYears employee past := by
  simp [settledYears, settlement]

/-- The ledger bears the latest of the years that were settled, and these fall
from the latest to the first. -/
theorem Run.years {past : List Step} {st : Store} (run : Run past st)
    (working : ∀ s ∈ past, s.sinks = .working) (employee : String) :
    st.lastYear? employee = (settledYears employee past).head? ∧
      (settledYears employee past).Pairwise (· > ·) := by
  induction run with
  | start =>
      exact ⟨rfl, List.Pairwise.nil⟩
  | @step past s run new inductionHypothesis =>
      obtain ⟨latest, falling⟩ := inductionHypothesis
        fun other member => working other (List.mem_cons_of_mem s member)
      cases settlement : s.settlement? employee with
      | none =>
          have deed := s.leave_deed new (working s List.mem_cons_self)
          rw [settledYears_of_unsettled settlement,
            deed.lastYear?_of_unsettled settlement]
          exact ⟨latest, falling⟩
      | some terms =>
          obtain ⟨yearOpen, _, b, found, starts⟩ :=
            Step.startsYear_of_settlement? settlement
          rw [settledYears_of_settlement? settlement]
          refine ⟨?_, List.pairwise_cons.2 ⟨?_, falling⟩⟩
          · rw [Store.lastYear?, found]
            exact starts.year
          · intro year member
            -- The year comes after the latest so far, and so after all.
            cases years : settledYears employee past with
            | nil =>
                rw [years] at member
                cases member
            | cons last earlier =>
                rw [years] at latest falling member
                have later : last < terms.year := yearOpen last latest
                rcases List.mem_cons.1 member with rfl | before
                · exact later
                · have below := (List.pairwise_cons.1 falling).1 year before
                  exact Int.lt_trans below later

/-! ## When a settlement succeeds -/

namespace Service

/-- What is answered to a settlement of a year that is not open. -/
def settlementConflict : Fault :=
  .conflict "leave accrual already settled for the same or newer year"

/-- A settlement for an employee that is permitted and valid. -/
structure Settles (ctx : Context) (st : Store) (actor : Actor)
    (scope : TenantScope) (input : AccrualInput) (employee : Employee) :
    Prop where
  authorized : ctx.authorize = .ok (actor, scope)
  permitted : actor.may .accrualSettle = true
  year : 2000 ≤ input.year ∧ input.year ≤ 9999
  grant : 0 < (Call.settlementTerms ctx input).annualGrantDays
  cap : 0 ≤ (Call.settlementTerms ctx input).carryOverCapDays
  found : st.employees.get? input.employee = some employee
  visible : scope.permits employee.organization = true

namespace Settles

variable {ctx : Context} {st : Store} {actor : Actor} {scope : TenantScope}
  {input : AccrualInput} {employee : Employee}

/-- All that is left to a settlement is to settle the ledger. -/
theorem settleAccrual_eq
    (settles : Settles ctx st actor scope input employee) :
    ∃ tell, settleAccrual ctx st input =
      .ok (.ofChange (st.settleBalance employee.id employee.organization
        (Call.settlementTerms ctx input) ctx.config.leave.grantedDays
          ctx.now) tell) := by
  have permitted : actor.require .accrualSettle
      "leave accrual settle requires admin or payroll_operator role" =
        .ok () :=
    Actor.require_eq_ok.2 settles.permitted
  have terms : Settlement.of input.year
      (input.annualGrantDays.getD ctx.config.leave.annualGrantDays)
      (input.carryOverCapDays.getD ctx.config.leave.carryOverCapDays) =
        .ok (Call.settlementTerms ctx input) :=
    Settlement.of_eq_ok.2
      ⟨settles.year, settles.grant, settles.cap, rfl⟩
  have lookup : requireEmployee st scope input.employee = .ok employee :=
    TenantScope.visible_eq_ok.2 ⟨settles.found, settles.visible⟩
  simp only [settleAccrual, settles.authorized, Outcome.ok_bind, permitted,
    terms, lookup]
  exact ⟨_, rfl⟩

theorem perform_of_open
    (settles : Settles ctx st actor scope input employee)
    (yearOpen : st.YearOpen employee.id input.year) :
    let terms := Call.settlementTerms ctx input
    let carried := st.carriedOver employee.id ctx.config.leave.grantedDays
      terms
    ∃ b, ((Call.settleAccrual input).perform ctx .working st).1 =
        .ok (.balance b) ∧
      ((Call.settleAccrual input).perform ctx .working st).2.balances.get?
        employee.id = some b ∧
      b.StartsYear terms ∧ b.carryOverDays = carried := by
  intro terms carried
  obtain ⟨tell, changed⟩ := settles.settleAccrual_eq
  have bears := st.ledger_lastYear employee.id employee.organization
    ctx.config.leave.grantedDays ctx.now
  obtain ⟨b, accepted⟩ : ∃ b, (st.ledger employee.id employee.organization
      ctx.config.leave.grantedDays ctx.now).settle
        (Call.settlementTerms ctx input) ctx.now = .ok b := by
    rw [LeaveBalance.settle_accepted_iff, bears]
    exact yearOpen
  have own : b.employee = employee.id := by
    rw [LeaveBalance.settle_employee accepted, Store.ledger_employee]
  have effect : (Call.settleAccrual input).effect ctx st =
      Call.changing st (settleAccrual ctx st input) .balance :=
    rfl
  rw [changed, Store.settleBalance_eq_write, accepted] at effect
  have figures := LeaveBalance.settle_eq_ok accepted
  rw [Store.ledger_carriedOver] at figures
  refine ⟨b, ?_, ?_, LeaveBalance.startsYear_of_settle accepted settles.cap,
    by rw [figures]⟩
  · rw [Call.perform, Effect.record_reply, Effect.answered_of_working, effect]
    rfl
  · rw [Call.perform, Effect.record_store, effect, ← own]
    exact Table.get?_put_self st.balances b

theorem perform_of_settled
    (settles : Settles ctx st actor scope input employee)
    (settled : ¬ st.YearOpen employee.id input.year) (sinks : Sinks) :
    (Call.settleAccrual input).perform ctx sinks st =
      (Outcome.refuse settlementConflict, st) := by
  obtain ⟨tell, changed⟩ := settles.settleAccrual_eq
  have bears := st.ledger_lastYear employee.id employee.organization
    ctx.config.leave.grantedDays ctx.now
  have refused : (st.ledger employee.id employee.organization
      ctx.config.leave.grantedDays ctx.now).settle
        (Call.settlementTerms ctx input) ctx.now =
          Outcome.refuse settlementConflict := by
    apply LeaveBalance.settle_of_settled
    rw [← Bool.not_eq_false, LeaveBalance.isSettledFor_eq_false, bears]
    exact settled
  have effect : (Call.settleAccrual input).effect ctx st =
      Call.changing st (settleAccrual ctx st input) .balance :=
    rfl
  rw [changed, Store.settleBalance_eq_write, refused] at effect
  rw [Call.perform, effect]
  rfl

end Settles

end Service

end Workforce
