import Mathlib.Algebra.BigOperators.Group.List.Basic
import Workforce.Proofs.Run

/-!
# What a ledger says of its history

The ledger of an employee is written in three ways: an approval charges days
to it, a settlement starts a year, and whoever needs a ledger that is not
there makes a fresh one.  This module proves that its figures are those of the
history of the employee, whatever else happened in between:

* the used days are the days of the requests that were approved since the last
  settlement, and the rest remains;
* the days granted are the ones of the configuration as long as nothing was
  settled, and afterwards the annual grant and what was carried over;
* no step changes a ledger but a settlement for the employee and an approval
  of one of their requests.

The figures are exact integers here.  What carries the induction is that the
law holds of the fresh ledger of an employee who has none, too, and that an
approved request stays as it is.
-/

namespace Workforce

/-! ## Histories -/

namespace Step

/-- The terms on which a step settles a year for an employee, if it does. -/
def settlement? (s : Step) (employee : String) : Option Settlement :=
  match s.call with
  | .settleAccrual input =>
    if input.employee = employee ∧ s.succeeds = true then
      some (Call.settlementTerms s.ctx input)
    else none
  | _ => none

/-- Whether a step takes a request from pending to approved. -/
def approves (s : Step) (id : String) : Bool :=
  decide ((s.before.leave.get? id).map LeaveRequest.state = some .pending ∧
    (s.after.leave.get? id).map LeaveRequest.state = some .approved)

end Step

/-- The steps since the last settlement for an employee, or all of them. -/
def sinceSettlement (employee : String) (past : List Step) : List Step :=
  past.takeWhile fun s => (s.settlement? employee).isNone

/-- The last settlement for an employee: the store that it met, and its
terms. -/
def lastSettlement? (employee : String) (past : List Step) :
    Option (Store × Settlement) :=
  past.findSome? fun s =>
    (s.settlement? employee).map fun terms => (s.before, terms)

/-- The days of a request that count as used by an employee: all of them if
the request is the employee's and was approved since the last settlement. -/
def countedDays (employee : String) (past : List Step) (r : LeaveRequest) :
    Int :=
  if r.employee = employee ∧
      (sinceSettlement employee past).any (·.approves r.id) = true then
    r.days
  else 0

/-- The days that remain to an employee, with days granted to a ledger that is
not there yet. -/
def Store.remainingDays (st : Store) (employee : String)
    (grantedDays : Int) : Int :=
  ((st.balances.get? employee).map LeaveBalance.remainingDays).getD
    grantedDays

/-- The law of ledgers: the figures of a ledger are those of the history of
the employee. -/
structure LeaveBalance.Accounts (config : Config) (past : List Step)
    (st : Store) (employee : String) (b : LeaveBalance) : Prop where
  used : b.usedDays = st.leave.total (countedDays employee past)
  remaining : b.remainingDays = b.grantedDays - b.usedDays
  unsettled : lastSettlement? employee past = none →
    b.grantedDays = config.leave.grantedDays ∧ b.carryOverDays = 0
  settled : ∀ met terms,
    lastSettlement? employee past = some (met, terms) →
      b.grantedDays = terms.annualGrantDays + b.carryOverDays ∧
        b.carryOverDays = min terms.carryOverCapDays
          (max 0 (met.remainingDays employee config.leave.grantedDays))

/-! ## What a step does to requests and ledgers -/

namespace Step

open Call (openedLedger chargedLedger settlementTerms)

/-- How a step leaves the requests and the ledgers: as they were; with a ledger
that was opened; with a request in the place of a pending one, or of none,
that is not approved; with an approved request and its days charged; or with a
settled ledger. -/
inductive LeaveDeed (s : Step) : Prop
  | kept (unsettled : ∀ employee, s.settlement? employee = none)
      (leave : s.after.leave = s.before.leave)
      (balances : s.after.balances = s.before.balances) : LeaveDeed s
  | opened {owner : String} {organization : Option String}
      (unsettled : ∀ employee, s.settlement? employee = none)
      (leave : s.after.leave = s.before.leave)
      (balances : s.after.balances = s.before.balances.put
        (openedLedger s.ctx s.before owner organization)) : LeaveDeed s
  | edited {r : LeaveRequest}
      (unsettled : ∀ employee, s.settlement? employee = none)
      (leave : s.after.leave = s.before.leave.put r)
      (balances : s.after.balances = s.before.balances)
      (undecided : r.state ≠ .approved)
      (pending : ∀ old, s.before.leave.get? r.id = some old →
        old.state = .pending) : LeaveDeed s
  | approved {actor : Actor} {existing : LeaveRequest}
      (unsettled : ∀ employee, s.settlement? employee = none)
      (found : s.before.leave.get? existing.id = some existing)
      (pending : existing.state = .pending)
      (leave : s.after.leave = s.before.leave.put
        (existing.decide actor .approved none s.ctx.now))
      (balances : s.after.balances = s.before.balances.put
        (chargedLedger s.ctx s.before existing)) : LeaveDeed s
  | settled {owner : String} {organization : Option String}
      {terms : Settlement} {b : LeaveBalance}
      (settles : ∀ employee, s.settlement? employee =
        if owner = employee then some terms else none)
      (accepted : (openedLedger s.ctx s.before owner organization).settle
        terms s.ctx.now = .ok b)
      (leave : s.after.leave = s.before.leave)
      (balances : s.after.balances = s.before.balances.put b) : LeaveDeed s

private theorem unsettled_of_call {s : Step} {c : Call} (called : s.call = c)
    (other : ∀ input, c ≠ .settleAccrual input) (employee : String) :
    s.settlement? employee = none := by
  unfold settlement?
  rw [called]
  cases c with
  | settleAccrual input =>
      exact absurd rfl (other input)
  | _ =>
      rfl

private theorem settlement?_of_call {s : Step} {input : Service.AccrualInput}
    (call : s.call = .settleAccrual input) (succeeded : s.succeeds = true)
    (employee : String) :
    s.settlement? employee =
      if input.employee = employee then some (settlementTerms s.ctx input)
      else none := by
  unfold settlement?
  rw [call]
  simp [succeeded]

private theorem unsettled_of_looking {s : Step}
    (looks : s.succeeds = true → s.call.looksOnly = true)
    (employee : String) : s.settlement? employee = none := by
  unfold settlement?
  split
  · rename_i input call
    rw [if_neg]
    rintro ⟨_, succeeded⟩
    have only := looks succeeded
    rw [call] at only
    cases only
  · rfl

/-- The request under the id of a pending one is that one. -/
theorem pending_of_found {st : Store} {id : String}
    {existing : LeaveRequest} (found : st.leave.get? id = some existing)
    (pending : existing.state = .pending) :
    ∀ old, st.leave.get? existing.id = some old → old.state = .pending := by
  intro old kept
  have same := (Table.get?_key found).symm.trans kept
  cases same
  exact pending

private theorem leaveDeed_of_does {s : Step} {c : Call} {actor : Actor}
    {scope : TenantScope} {w : Write} {notice : Notice} {reply : Reply}
    (called : s.call = c)
    (succeeded : s.succeeds = true ∨ s.halts = true)
    (new : s.ctx.NewIds s.before)
    (does : c.Does s.ctx s.before actor scope w notice reply)
    (leave : s.after.leave = s.before.leave.putAny w.leave)
    (balances : s.after.balances = s.before.balances.putAny w.balance) :
    s.LeaveDeed := by
  have unsettled := unsettled_of_call called
  cases does with
  | createLeave permitted span found visible own made free =>
      subst made
      refine .edited (unsettled nofun) leave balances nofun ?_
      intro old kept
      have absent := new.leave.symm.trans kept
      cases absent
  | updateLeave permitted found visible pending own made span free =>
      subst made
      have replaced := pending_of_found found pending
      refine .edited (unsettled nofun) leave balances ?_ replaced
      intro approved
      have clash := pending.symm.trans approved
      cases clash
  | approveLeave permitted found visible pending =>
      exact .approved (unsettled nofun) (Table.get?_key found) pending leave
        balances
  | rejectLeave permitted reasoned found visible pending =>
      have replaced := pending_of_found found pending
      exact .edited (unsettled nofun) leave balances nofun replaced
  | cancelLeave permitted found visible pending own =>
      have replaced := pending_of_found found pending
      exact .edited (unsettled nofun) leave balances nofun replaced
  | readBalance permitted found visible own =>
      exact .opened (unsettled nofun) leave balances
  | settleAccrual permitted terms found visible accepted =>
      rw [show Employee.id _ = _ from Table.key_of_get? found] at accepted
      have whole : s.halts ≠ true := by
        intro halted
        obtain ⟨_, _, assigns, _⟩ := call_of_halts halted
        rw [called] at assigns
        cases assigns
      have settles :=
        settlement?_of_call called (succeeded.resolve_right whole)
      exact .settled settles accepted leave balances
  | _ =>
      exact .kept (unsettled nofun) leave balances

/-- With working sinks every step leaves them in one of these ways. -/
theorem leave_deed (s : Step) (new : s.ctx.NewIds s.before)
    (working : s.sinks = .working) : s.LeaveDeed := by
  rcases s.after_cases with
    ⟨looks, audit, events, left⟩ |
    ⟨actor, scope, w, notice, reply, audit, events, succeeds, does, left⟩
  · refine .kept (unsettled_of_looking looks) ?_ ?_
    · rw [left]
    · rw [left]
  · refine leaveDeed_of_does rfl (succeeds working) new does ?_ ?_
    · rw [left]
      rfl
    · rw [left]
      rfl

/-! ## Which requests a step approves -/

theorem not_approves_of_same {s : Step} {id : String}
    (same : s.after.leave.get? id = s.before.leave.get? id) :
    s.approves id = false := by
  unfold approves
  rw [decide_eq_false_iff_not]
  rintro ⟨pending, approved⟩
  rw [same, pending] at approved
  cases approved

theorem not_approves_of_undecided {s : Step} {r : LeaveRequest}
    (put : s.after.leave = s.before.leave.put r)
    (undecided : r.state ≠ .approved) (id : String) :
    s.approves id = false := by
  by_cases here : Keyed.key r = id
  · unfold approves
    rw [decide_eq_false_iff_not, put, Table.get?_put, if_pos here]
    rintro ⟨pending, approved⟩
    exact undecided (Option.some.inj approved)
  · apply not_approves_of_same
    rw [put, Table.get?_put_of_ne _ here]

theorem approves_of_decided {s : Step} {actor : Actor}
    {existing : LeaveRequest}
    (found : s.before.leave.get? existing.id = some existing)
    (pending : existing.state = .pending)
    (leave : s.after.leave =
      s.before.leave.put (existing.decide actor .approved none s.ctx.now)) :
    s.approves existing.id = true := by
  have decided := Table.get?_put_self s.before.leave
    (existing.decide actor .approved none s.ctx.now)
  rw [← leave] at decided
  apply decide_eq_true
  refine ⟨?_, ?_⟩
  · rw [found, Option.map_some, pending]
  · exact congrArg (Option.map LeaveRequest.state) decided

/-- A request that was approved keeps its place. -/
theorem LeaveDeed.keeps_approved {s : Step} (deed : s.LeaveDeed)
    {id : String} {r : LeaveRequest}
    (found : s.before.leave.get? id = some r) (state : r.state = .approved) :
    s.after.leave.get? id = some r := by
  have untouched : ∀ {a : LeaveRequest},
      s.after.leave = s.before.leave.put a →
        (∀ old, s.before.leave.get? a.id = some old →
          old.state = .pending) → s.after.leave.get? id = some r := by
    intro a leave pending
    have apart : Keyed.key a ≠ id := by
      intro same
      rw [← same] at found
      have clash := (pending r found).symm.trans state
      cases clash
    rw [leave]
    exact (Table.get?_put_of_ne _ apart).trans found
  cases deed with
  | kept _ leave _ =>
      rw [leave]
      exact found
  | opened _ leave _ =>
      rw [leave]
      exact found
  | edited _ leave _ _ pending =>
      exact untouched leave pending
  | approved _ kept pending leave _ =>
      have replaced := pending_of_found kept pending
      exact untouched leave replaced
  | settled _ _ leave _ =>
      rw [leave]
      exact found

end Step

/-! ## Counting days -/

section Counting

variable {s : Step} {past : List Step} {employee : String}

/-- Approved requests stay approved. -/
def StaysApproved (past : List Step) (st : Store) : Prop :=
  ∀ s ∈ past, ∀ id, s.approves id = true →
    ∃ r, st.leave.get? id = some r ∧ r.state = .approved

theorem sinceSettlement_subset (employee : String) (past : List Step) :
    ∀ s ∈ sinceSettlement employee past, s ∈ past :=
  (List.takeWhile_sublist _).subset

/-- A request that is pending, or not there, was never approved. -/
theorem StaysApproved.never_approved {st : Store} {id : String}
    (approved : StaysApproved past st) (employee : String)
    (pending : ∀ old, st.leave.get? id = some old → old.state = .pending) :
    (sinceSettlement employee past).any (·.approves id) = false := by
  rw [List.any_eq_false]
  intro s member approves
  have earlier := sinceSettlement_subset employee past s member
  obtain ⟨r, found, state⟩ := approved s earlier id approves
  rw [pending r found] at state
  cases state

theorem any_sinceSettlement_cons (unsettled : s.settlement? employee = none)
    (id : String) :
    (sinceSettlement employee (s :: past)).any (·.approves id) =
      (s.approves id ||
        (sinceSettlement employee past).any (·.approves id)) := by
  simp [sinceSettlement, unsettled]

theorem countedDays_of_not_approves
    (unsettled : s.settlement? employee = none) {r : LeaveRequest}
    (silent : s.approves r.id = false) :
    countedDays employee past r = countedDays employee (s :: past) r := by
  unfold countedDays
  rw [any_sinceSettlement_cons unsettled, silent, Bool.false_or]

/-- Nothing is counted right after a settlement. -/
theorem total_counted_of_settled {terms : Settlement}
    (settled : s.settlement? employee = some terms)
    (t : Table LeaveRequest) :
    t.total (countedDays employee (s :: past)) = 0 := by
  have nothing : ∀ r, countedDays employee (s :: past) r = 0 := by
    intro r
    simp [countedDays, sinceSettlement, settled]
  apply List.sum_eq_zero
  intro days member
  obtain ⟨r, _, rfl⟩ := List.mem_map.1 member
  exact nothing r

/-- The count stays as long as no request changes. -/
theorem total_counted_of_same (unsettled : s.settlement? employee = none)
    (same : s.after.leave = s.before.leave) :
    s.after.leave.total (countedDays employee (s :: past)) =
      s.before.leave.total (countedDays employee past) := by
  rw [same]
  symm
  apply Table.total_congr
  intro r member
  apply countedDays_of_not_approves unsettled
  apply Step.not_approves_of_same
  rw [same]

/-- A request that takes the place of a pending one, or of none, is counted if
this approves it. -/
theorem total_counted_of_put (unsettled : s.settlement? employee = none)
    {r : LeaveRequest} (put : s.after.leave = s.before.leave.put r)
    (pending : ∀ old, s.before.leave.get? r.id = some old →
      old.state = .pending)
    (approved : StaysApproved past s.before) :
    s.after.leave.total (countedDays employee (s :: past)) =
      s.before.leave.total (countedDays employee past) +
        if r.employee = employee ∧ s.approves r.id = true then r.days
        else 0 := by
  have never := approved.never_approved employee pending
  have others : ∀ other ∈ s.before.leave.rows,
      Keyed.key other ≠ Keyed.key r →
        countedDays employee past other =
          countedDays employee (s :: past) other := by
    intro other member apart
    apply countedDays_of_not_approves unsettled
    apply Step.not_approves_of_same
    rw [put]
    exact Table.get?_put_of_ne _ (Ne.symm apart)
  -- The replaced request was pending, so it was not counted so far.
  have replaced :
      ((s.before.leave.get? (Keyed.key r)).map
        (countedDays employee past)).getD 0 = 0 := by
    cases found : s.before.leave.get? (Keyed.key r) with
    | none =>
        rfl
    | some old =>
        have same : old.id = r.id := Table.key_of_get? found
        simp [countedDays, same, never]
  have added : countedDays employee (s :: past) r =
      if r.employee = employee ∧ s.approves r.id = true then r.days
      else 0 := by
    unfold countedDays
    rw [any_sinceSettlement_cons unsettled, never, Bool.or_false]
  rw [put, Table.total_put s.before.leave r others, replaced, added]
  omega

end Counting

/-! ## The law through one step -/

theorem Store.ledger_remainingDays (st : Store) (employee : String)
    (organization : Option String) (grantedDays : Int) (now : Instant) :
    (st.ledger employee organization grantedDays now).remainingDays =
      st.remainingDays employee grantedDays := by
  unfold Store.ledger Store.remainingDays
  cases st.balances.get? employee with
  | none =>
      rfl
  | some b =>
      rfl

/-- A ledger that is put in is its employee's, and all others stay. -/
theorem Store.ledger_of_put {before after : Store} {b : LeaveBalance}
    (balances : after.balances = before.balances.put b) (employee : String)
    (organization : Option String) (grantedDays : Int) (now : Instant) :
    after.ledger employee organization grantedDays now =
      if b.employee = employee then b
      else before.ledger employee organization grantedDays now := by
  unfold Store.ledger
  rw [balances, Table.get?_put, show Keyed.key b = b.employee from rfl]
  by_cases own : b.employee = employee
  · rw [if_pos own, if_pos own]
    rfl
  · rw [if_neg own, if_neg own]

theorem Store.ledger_of_same {before after : Store}
    (balances : after.balances = before.balances) (employee : String)
    (organization : Option String) (grantedDays : Int) (now : Instant) :
    after.ledger employee organization grantedDays now =
      before.ledger employee organization grantedDays now := by
  unfold Store.ledger
  rw [balances]

namespace LeaveBalance.Accounts

variable {config : Config} {s : Step} {past : List Step} {employee : String}
  {b : LeaveBalance}

private theorem lastSettlement?_of_unsettled
    (unsettled : s.settlement? employee = none) :
    lastSettlement? employee (s :: past) =
      lastSettlement? employee past := by
  simp [lastSettlement?, unsettled]

/-- A step that neither settles nor counts anything keeps the law. -/
theorem keep (unsettled : s.settlement? employee = none)
    (count : s.after.leave.total (countedDays employee (s :: past)) =
      s.before.leave.total (countedDays employee past))
    (accounts : b.Accounts config past s.before employee) :
    b.Accounts config (s :: past) s.after employee where
  used := by
    rw [count]
    exact accounts.used
  remaining := accounts.remaining
  unsettled := by
    rw [lastSettlement?_of_unsettled unsettled]
    exact accounts.unsettled
  settled := by
    rw [lastSettlement?_of_unsettled unsettled]
    exact accounts.settled

theorem charge {days : Int} {now : Instant}
    (unsettled : s.settlement? employee = none)
    (count : s.after.leave.total (countedDays employee (s :: past)) =
      s.before.leave.total (countedDays employee past) + days)
    (accounts : b.Accounts config past s.before employee) :
    (b.use days now).Accounts config (s :: past) s.after employee where
  used := by
    rw [count, ← accounts.used]
    rfl
  remaining := rfl
  unsettled := by
    rw [lastSettlement?_of_unsettled unsettled]
    exact accounts.unsettled
  settled := by
    rw [lastSettlement?_of_unsettled unsettled]
    exact accounts.settled

theorem settle {terms : Settlement} {now : Instant} {after : LeaveBalance}
    (settlement : s.settlement? employee = some terms)
    (remaining : b.remainingDays =
      s.before.remainingDays employee config.leave.grantedDays)
    (accepted : b.settle terms now = .ok after) :
    after.Accounts config (s :: past) s.after employee := by
  have last : lastSettlement? employee (s :: past) =
      some (s.before, terms) := by
    simp [lastSettlement?, settlement]
  rw [settle_eq_ok accepted]
  refine ⟨?_, ?_, ?_, ?_⟩
  · rw [total_counted_of_settled settlement]
  · simp
  · rw [last]
    exact nofun
  · intro met other same
    rw [last] at same
    cases same
    have carried : b.carriedOver terms =
        min terms.carryOverCapDays (max 0 b.remainingDays) := by
      unfold LeaveBalance.carriedOver
      omega
    rw [← remaining]
    exact ⟨rfl, carried⟩

end LeaveBalance.Accounts

/-! ## The law through a run -/

/-- The law holds of the ledgers of a store, and of the fresh ledger of
whoever has none. -/
def LawfulLedgers (config : Config) (past : List Step) (st : Store) : Prop :=
  ∀ employee organization now,
    (st.ledger employee organization config.leave.grantedDays now).Accounts
      config past st employee

theorem lawfulLedgers_empty (config : Config) :
    LawfulLedgers config [] Store.empty := by
  intro employee organization now
  have opened :
      Store.empty.ledger employee organization config.leave.grantedDays now =
        LeaveBalance.fresh employee organization config.leave.grantedDays
          now :=
    rfl
  rw [opened]
  refine ⟨rfl, ?_, fun _ => ⟨rfl, rfl⟩, ?_⟩
  · simp [LeaveBalance.fresh]
  · intro met terms last
    cases last

namespace LawfulLedgers

variable {s : Step} {past : List Step}
  (lawful : LawfulLedgers s.ctx.config past s.before)

include lawful

private theorem of_kept (unsettled : ∀ employee, s.settlement? employee = none)
    (leave : s.after.leave = s.before.leave)
    (balances : s.after.balances = s.before.balances) :
    LawfulLedgers s.ctx.config (s :: past) s.after := by
  intro employee organization now
  rw [Store.ledger_of_same balances]
  exact (lawful employee organization now).keep (unsettled employee)
    (total_counted_of_same (unsettled employee) leave)

/-- An opened ledger is the one that was there, or the fresh one. -/
private theorem of_opened {owner : String} {organization : Option String}
    (unsettled : ∀ employee, s.settlement? employee = none)
    (leave : s.after.leave = s.before.leave)
    (balances : s.after.balances = s.before.balances.put
      (Call.openedLedger s.ctx s.before owner organization)) :
    LawfulLedgers s.ctx.config (s :: past) s.after := by
  intro employee organization' now
  have count : s.after.leave.total (countedDays employee (s :: past)) =
      s.before.leave.total (countedDays employee past) :=
    total_counted_of_same (unsettled employee) leave
  rw [Store.ledger_of_put balances, Call.openedLedger_employee]
  by_cases own : owner = employee
  · subst own
    rw [if_pos rfl]
    exact (lawful owner organization s.ctx.now).keep (unsettled owner) count
  · rw [if_neg own]
    exact (lawful employee organization' now).keep (unsettled employee) count

private theorem of_edited {r : LeaveRequest}
    (unsettled : ∀ employee, s.settlement? employee = none)
    (leave : s.after.leave = s.before.leave.put r)
    (balances : s.after.balances = s.before.balances)
    (undecided : r.state ≠ .approved)
    (pending : ∀ old, s.before.leave.get? r.id = some old →
      old.state = .pending)
    (approved : StaysApproved past s.before) :
    LawfulLedgers s.ctx.config (s :: past) s.after := by
  intro employee organization now
  have silent := Step.not_approves_of_undecided leave undecided r.id
  have count := total_counted_of_put (unsettled employee) leave pending
    approved
  rw [silent, if_neg (fun both => Bool.false_ne_true both.2),
    Int.add_zero] at count
  rw [Store.ledger_of_same balances]
  exact (lawful employee organization now).keep (unsettled employee) count

/-- The days of an approved request are counted for its employee, and are
charged to the same. -/
private theorem of_approved {actor : Actor} {existing : LeaveRequest}
    (unsettled : ∀ employee, s.settlement? employee = none)
    (found : s.before.leave.get? existing.id = some existing)
    (pending : existing.state = .pending)
    (leave : s.after.leave = s.before.leave.put
      (existing.decide actor .approved none s.ctx.now))
    (balances : s.after.balances = s.before.balances.put
      (Call.chargedLedger s.ctx s.before existing))
    (approved : StaysApproved past s.before) :
    LawfulLedgers s.ctx.config (s :: past) s.after := by
  intro employee organization now
  have approves := Step.approves_of_decided found pending leave
  have replaced := Step.pending_of_found found pending
  have count := total_counted_of_put (unsettled employee) leave replaced
    approved
  rw [Store.ledger_of_put balances, Call.chargedLedger_employee]
  by_cases own : existing.employee = employee
  · rw [if_pos ⟨own, approves⟩] at count
    subst own
    rw [if_pos rfl]
    exact (lawful existing.employee existing.organization s.ctx.now).charge
      (unsettled existing.employee) count
  · rw [if_neg (fun both => own both.1), Int.add_zero] at count
    rw [if_neg own]
    exact (lawful employee organization now).keep (unsettled employee) count

/-- A settlement is the last one of its employee, and of nobody else. -/
private theorem of_settled {owner : String} {organization : Option String}
    {terms : Settlement} {b : LeaveBalance}
    (settles : ∀ employee, s.settlement? employee =
      if owner = employee then some terms else none)
    (accepted : (Call.openedLedger s.ctx s.before owner organization).settle
      terms s.ctx.now = .ok b)
    (leave : s.after.leave = s.before.leave)
    (balances : s.after.balances = s.before.balances.put b) :
    LawfulLedgers s.ctx.config (s :: past) s.after := by
  intro employee organization' now
  have settlement := settles employee
  rw [Store.ledger_of_put balances, LeaveBalance.settle_employee accepted,
    Call.openedLedger_employee]
  by_cases own : owner = employee
  · subst own
    rw [if_pos rfl] at settlement ⊢
    exact LeaveBalance.Accounts.settle settlement
      (Store.ledger_remainingDays s.before owner organization
        s.ctx.config.leave.grantedDays s.ctx.now) accepted
  · rw [if_neg own] at settlement ⊢
    exact (lawful employee organization' now).keep settlement
      (total_counted_of_same settlement leave)

/-- One step keeps the law. -/
theorem step (approved : StaysApproved past s.before) (deed : s.LeaveDeed) :
    LawfulLedgers s.ctx.config (s :: past) s.after := by
  cases deed with
  | kept unsettled leave balances =>
      exact lawful.of_kept unsettled leave balances
  | opened unsettled leave balances =>
      exact lawful.of_opened unsettled leave balances
  | edited unsettled leave balances undecided pending =>
      exact lawful.of_edited unsettled leave balances undecided pending
        approved
  | approved unsettled found pending leave balances =>
      exact lawful.of_approved unsettled found pending leave balances approved
  | settled settles accepted leave balances =>
      exact lawful.of_settled settles accepted leave balances

end LawfulLedgers

theorem StaysApproved.step {s : Step} {past : List Step}
    (approved : StaysApproved past s.before) (deed : s.LeaveDeed) :
    StaysApproved (s :: past) s.after := by
  intro earlier member id approves
  rcases List.mem_cons.1 member with rfl | past
  · have state := (of_decide_eq_true approves).2
    exact Option.map_eq_some_iff.1 state
  · obtain ⟨r, found, state⟩ := approved earlier past id approves
    exact ⟨r, deed.keeps_approved found state, state⟩

/-- A run with working sinks and one configuration keeps the law. -/
theorem lawfulLedgers_of_run {config : Config} {past : List Step}
    {st : Store} (run : Run past st)
    (configured : ∀ s ∈ past, s.ctx.config = config)
    (working : ∀ s ∈ past, s.sinks = .working) :
    LawfulLedgers config past st ∧ StaysApproved past st := by
  -- The law alone does not carry the induction: that a request which takes
  -- the place of another was not counted before rests on the second part.
  induction run with
  | start =>
      refine ⟨lawfulLedgers_empty config, ?_⟩
      intro s member
      cases member
  | @step past s run new inductionHypothesis =>
      obtain ⟨lawful, approved⟩ := inductionHypothesis
        (fun other member => configured other (List.mem_cons_of_mem s member))
        (fun other member => working other (List.mem_cons_of_mem s member))
      have same := configured s List.mem_cons_self
      subst same
      have deed := s.leave_deed new (working s List.mem_cons_self)
      exact ⟨lawful.step approved deed, approved.step deed⟩

/-! ## What changes a ledger -/

/-- A ledger stays as it is in a step that neither settles a year for the
employee nor approves one of their requests. -/
theorem Step.LeaveDeed.ledger_unchanged {s : Step} {employee : String}
    {b : LeaveBalance} (deed : s.LeaveDeed)
    (found : s.before.balances.get? employee = some b)
    (unsettled : s.settlement? employee = none)
    (unapproved : ∀ id r, s.before.leave.get? id = some r →
      r.employee = employee → s.approves id = false) :
    s.after.balances.get? employee = some b := by
  have untouched : ∀ {other : LeaveBalance}, other.employee ≠ employee →
      s.after.balances = s.before.balances.put other →
        s.after.balances.get? employee = some b := by
    intro other foreign balances
    rw [balances]
    exact (Table.get?_put_of_ne _ foreign).trans found
  cases deed with
  | kept _ leave balances =>
      rw [balances]
      exact found
  | @opened owner organization _ leave balances =>
      by_cases own : owner = employee
      · subst own
        have same : Call.openedLedger s.ctx s.before owner organization =
            b := by
          rw [Call.openedLedger, Store.ledger, found]
          rfl
        rw [balances, same, Table.put_of_get? (Table.get?_key found)]
        exact found
      · rw [← Call.openedLedger_employee s.ctx s.before owner
          organization] at own
        exact untouched own balances
  | edited _ leave balances undecided pending =>
      rw [balances]
      exact found
  | @approved actor existing _ kept pending leave balances =>
      have approves := Step.approves_of_decided kept pending leave
      apply untouched _ balances
      rw [Call.chargedLedger_employee]
      intro own
      rw [unapproved existing.id existing kept own] at approves
      cases approves
  | settled settles accepted leave balances =>
      apply untouched _ balances
      rw [LeaveBalance.settle_employee accepted, Call.openedLedger_employee]
      intro own
      rw [settles employee, if_pos own] at unsettled
      cases unsettled

/-- In exact integers the figures of every ledger are those of its employee's
history, over any run with one configuration and working sinks. -/
theorem Run.accounts {config : Config} {past : List Step} {st : Store}
    (run : Run past st) (configured : ∀ s ∈ past, s.ctx.config = config)
    (working : ∀ s ∈ past, s.sinks = .working) {employee : String}
    {b : LeaveBalance} (found : st.balances.get? employee = some b) :
    b.Accounts config past st employee := by
  obtain ⟨lawful, _⟩ := lawfulLedgers_of_run run configured working
  have law := lawful employee none ⟨0⟩
  rw [Store.ledger, found] at law
  exact law

end Workforce
