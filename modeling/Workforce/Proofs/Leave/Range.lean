import Mathlib.Algebra.Order.BigOperators.Group.List
import Workforce.Proofs.Attendance.Approval
import Workforce.Proofs.Leave.Days
import Workforce.Proofs.Leave.Settlement

/-!
# How large the figures of a ledger get

The figures of a ledger are sums and differences of days.  This module bounds
them after any run, whatever the configurations were and also if sinks were out
of order, by two numbers:

* what is granted to a ledger at once, by a configuration to a new one or by a
  settlement together with what it may carry over (`Step.GrantsAtMost`);
* the civil days that the requests of the employee cover.

That the second is enough is because requests have no day in common: the days
used are days of approved requests, and of each request once.  So no number of
approvals makes the used days more than there are days in the calendar.

Of the first number nothing is checked but that it is not negative.  That is
why the figures need not fit 64 bits.
-/

namespace Workforce

/-! ## One ledger -/

/-- The figures of a ledger that was granted at most `limit` days at once, and
of which no more than `days` are used.  What remains may be below zero. -/
structure LeaveBalance.Within (limit days : Int) (b : LeaveBalance) :
    Prop where
  carryOver : 0 ≤ b.carryOverDays ∧ b.carryOverDays ≤ b.grantedDays
  granted : b.grantedDays ≤ limit
  used : 0 ≤ b.usedDays ∧ b.usedDays ≤ days
  remaining : b.remainingDays = b.grantedDays - b.usedDays

/-- All figures of a ledger take 64 bits. -/
def LeaveBalance.FitsInt64 (b : LeaveBalance) : Prop :=
  ∀ n ∈ [b.grantedDays, b.usedDays, b.remainingDays, b.carryOverDays],
    minInt64 ≤ n ∧ n ≤ maxInt64

instance (b : LeaveBalance) : Decidable b.FitsInt64 :=
  inferInstanceAs (Decidable (∀ n ∈ _, _))

/-- Terms on which a year may be settled, with at most `limit` days for it. -/
structure Settlement.AtMost (limit : Int) (terms : Settlement) : Prop where
  grant : 0 < terms.annualGrantDays
  cap : 0 ≤ terms.carryOverCapDays
  sum : terms.annualGrantDays + terms.carryOverCapDays ≤ limit

namespace LeaveBalance

variable {limit days more : Int} {b : LeaveBalance} {now : Instant}

theorem Within.mono (within : b.Within limit days) (le : days ≤ more) :
    b.Within limit more :=
  { within with used := ⟨within.used.1, within.used.2.trans le⟩ }

theorem fresh_within {employee : String} {organization : Option String}
    {grantedDays : Int} (least : 0 ≤ grantedDays) (most : grantedDays ≤ limit)
    (nonnegative : 0 ≤ days) :
    (fresh employee organization grantedDays now).Within limit days where
  carryOver := ⟨le_rfl, least⟩
  granted := most
  used := ⟨le_rfl, nonnegative⟩
  remaining := (Int.sub_zero grantedDays).symm

theorem Within.use {n : Int} (within : b.Within limit days) (least : 0 ≤ n)
    (now : Instant) : (b.use n now).Within limit (n + days) where
  carryOver := within.carryOver
  granted := within.granted
  used := by
    obtain ⟨above, below⟩ := within.used
    simp only [LeaveBalance.use]
    omega
  remaining := rfl

/-- Whatever was there before, a settlement leaves the figures of its terms. -/
theorem within_of_settle {terms : Settlement} {after : LeaveBalance}
    (accepted : b.settle terms now = .ok after) (moderate : terms.AtMost limit)
    (nonnegative : 0 ≤ days) : after.Within limit days := by
  obtain ⟨grant, cap, sum⟩ := moderate
  have carried : 0 ≤ b.carriedOver terms ∧
      b.carriedOver terms ≤ terms.carryOverCapDays := by
    unfold carriedOver
    omega
  rw [settle_eq_ok accepted]
  constructor
  · simp only
    omega
  · simp only
    omega
  · exact ⟨le_rfl, nonnegative⟩
  · simp only
    omega

theorem Within.fitsInt64 (within : b.Within limit days)
    (grants : limit ≤ maxInt64) (calendar : days ≤ maxInt64) :
    b.FitsInt64 := by
  obtain ⟨carryOver, granted, used, remaining⟩ := within
  simp only [FitsInt64, List.mem_cons, List.not_mem_nil, or_false]
  unfold minInt64 maxInt64 at *
  rintro n (rfl | rfl | rfl | rfl) <;> omega

end LeaveBalance

/-! ## Approved days -/

/-- Whether a request is an approved one of an employee. -/
def LeaveRequest.isApprovedFor (r : LeaveRequest) (employee : String) : Bool :=
  r.employee == employee && r.state == .approved

/-- The approved requests of an employee. -/
def Store.approvedLeave (st : Store) (employee : String) :
    List LeaveRequest :=
  st.leave.rows.filter (·.isApprovedFor employee)

/-- The days of the approved requests of an employee. -/
def Store.approvedDays (st : Store) (employee : String) : Int :=
  ((st.approvedLeave employee).map LeaveRequest.days).sum

section ApprovedDays

variable {st : Store} {employee : String}

theorem LeaveApart.days_nonneg (law : LeaveApart st.leave)
    {r : LeaveRequest} (kept : r ∈ st.leave.rows) : 0 ≤ r.days :=
  Int.le_trans zero_le_one (law.spans r kept).one_le_days

/-- Some of the requests have no more days than all of them. -/
theorem LeaveApart.sum_days_le (law : LeaveApart st.leave)
    {some all : List LeaveRequest} (sublist : some.Sublist all)
    (kept : ∀ r ∈ all, r ∈ st.leave.rows) :
    (some.map LeaveRequest.days).sum ≤ (all.map LeaveRequest.days).sum := by
  refine (sublist.map LeaveRequest.days).sum_le_sum ?_
  intro n member
  obtain ⟨r, within, rfl⟩ := List.mem_map.1 member
  exact law.days_nonneg (kept r within)

theorem LeaveApart.approvedDays_nonneg (law : LeaveApart st.leave) :
    0 ≤ st.approvedDays employee := by
  apply List.sum_nonneg
  intro n member
  obtain ⟨r, approved, rfl⟩ := List.mem_map.1 member
  exact law.days_nonneg (List.mem_filter.1 approved).1

/-- Approved days are days that the active requests cover, each of them
once. -/
theorem LeaveApart.approvedDays_le (law : LeaveApart st.leave) :
    st.approvedDays employee ≤ ((st.coveredDays employee).card : Int) := by
  rw [← law.sum_days]
  have approved : (st.approvedLeave employee).Sublist
      (st.activeLeave employee) := by
    apply List.monotone_filter_right
    intro r own
    simp only [LeaveRequest.isApprovedFor, Bool.and_eq_true, beq_iff_eq]
      at own
    simp [own.1, own.2, LeaveState.isActive]
  exact law.sum_days_le approved
    fun r active => (Store.mem_activeLeave.1 active).1

/-- The days that are covered are no more than all requests have together. -/
theorem LeaveApart.coveredDays_le (law : LeaveApart st.leave)
    (employee : String) :
    ((st.coveredDays employee).card : Int) ≤
      st.leave.total LeaveRequest.days := by
  rw [← law.sum_days]
  exact law.sum_days_le List.filter_sublist fun r kept => kept

variable {ctx : Context} {actor : Actor} {scope : TenantScope} {c : Call}
  {w : Write} {notice : Notice} {reply : Reply}

/-- A deed adds the days of the request that it leaves approved, if any. -/
theorem Call.Does.approvedDays_eq
    (does : c.Does ctx st actor scope w notice reply) (new : ctx.NewIds st)
    (employee : String) :
    (st.write w).approvedDays employee =
      ((w.leave.filter (·.isApprovedFor employee)).toList.map
        LeaveRequest.days).sum + st.approvedDays employee := by
  have replaced : ∀ r, w.leave = some r → ∀ old,
      st.leave.get? (Keyed.key r) = some old →
        old.isApprovedFor employee = false := by
    intro r written old found
    obtain ⟨_, stillOpen⟩ := (does.extends new).leave r written old found
    rw [LeaveRequest.isApprovedFor, Bool.and_eq_false_iff]
    right
    rw [beq_eq_false_iff_ne]
    exact fun approved => stillOpen (Or.inl approved)
  have rows := (Table.filter_putAny replaced).map LeaveRequest.days
  rw [Store.approvedDays, Store.approvedLeave, Store.write]
  rw [rows.sum_eq, List.map_append, List.sum_append]
  rfl

/-- So approved days only grow. -/
theorem Call.Does.approvedDays_mono
    (does : c.Does ctx st actor scope w notice reply) (new : ctx.NewIds st)
    (law : LeaveApart st.leave) (employee : String) :
    st.approvedDays employee ≤ (st.write w).approvedDays employee := by
  rw [does.approvedDays_eq new]
  apply Int.le_add_of_nonneg_left
  apply List.sum_nonneg
  intro n member
  obtain ⟨r, written, rfl⟩ := List.mem_map.1 member
  obtain ⟨same, _⟩ := Option.filter_eq_some_iff.1 (Option.mem_toList.1 written)
  have after : LeaveApart (st.write w).leave := LeaveApart.deed law does
  have put : r ∈ (st.write w).leave.rows := by
    rw [Store.write, same]
    exact Table.mem_rows_put.2 (.inl rfl)
  exact after.days_nonneg put

end ApprovedDays

/-! ## All ledgers -/

/-- The law of the figures: those of every ledger are within the limit, and
within the approved days of its employee. -/
def Store.LedgersWithin (limit : Int) (st : Store) : Prop :=
  ∀ b ∈ st.balances.rows, b.Within limit (st.approvedDays b.employee)

/-- A call that grants at most `limit` days at once: by its configuration, which
is valid, to a ledger that is new, or by a settlement whose terms are accepted,
what these may carry over included. -/
structure Call.GrantsAtMost (limit : Int) (ctx : Context) (c : Call) :
    Prop where
  config : ctx.config.validate = .ok ()
  opened : ctx.config.leave.grantedDays ≤ limit
  settled : ∀ input terms, c = .settleAccrual input →
    Settlement.of (settlementTerms ctx input).year
      (settlementTerms ctx input).annualGrantDays
      (settlementTerms ctx input).carryOverCapDays = .ok terms →
        terms.annualGrantDays + terms.carryOverCapDays ≤ limit

/-- A step whose call grants at most `limit` days at once. -/
def Step.GrantsAtMost (limit : Int) (s : Step) : Prop :=
  s.call.GrantsAtMost limit s.ctx

/-- No new ledger is granted less than no days. -/
theorem Config.grantedDays_nonneg {config : Config}
    (valid : config.validate = .ok ()) : 0 ≤ config.leave.grantedDays := by
  simp only [Config.validate, Outcome.bind_eq_ok, Outcome.ensure_eq_ok]
    at valid
  obtain ⟨_, _, _, _, _, granted, _⟩ := valid
  exact granted

section Deeds

variable {limit : Int} {ctx : Context} {st : Store} {actor : Actor}
  {scope : TenantScope} {c : Call} {w : Write} {notice : Notice}
  {reply : Reply}

/-- The ledger that a call finds or makes is within the law. -/
theorem Store.LedgersWithin.opened (within : st.LedgersWithin limit)
    (law : LeaveApart st.leave) (grants : c.GrantsAtMost limit ctx)
    (employee : String) (organization : Option String) :
    (Call.openedLedger ctx st employee organization).Within limit
      (st.approvedDays employee) := by
  unfold Call.openedLedger Store.ledger
  cases found : st.balances.get? employee with
  | none =>
      exact LeaveBalance.fresh_within
        (Config.grantedDays_nonneg grants.config) grants.opened
        law.approvedDays_nonneg
  | some b =>
      have own : b.employee = employee := Table.key_of_get? found
      rw [← own]
      exact within b (Table.mem_of_get? found)

/-- The ledger that a deed writes is within the law as the deed leaves it. -/
theorem Store.LedgersWithin.written (within : st.LedgersWithin limit)
    (law : LeaveApart st.leave) (new : ctx.NewIds st)
    (grants : c.GrantsAtMost limit ctx)
    (does : c.Does ctx st actor scope w notice reply) :
    ∀ b, w.balance = some b →
      b.Within limit ((st.write w).approvedDays b.employee) := by
  have after := does.approvedDays_eq new
  intro b put
  cases does with
  | @approveLeave id existing payload permitted found visible pending =>
      cases put
      have days := (law.spans _ (Table.mem_of_get? found)).one_le_days
      have approved : (existing.decide actor .approved none
          ctx.now).isApprovedFor existing.employee = true := by
        simp [LeaveRequest.isApprovedFor, LeaveRequest.decide,
          LeaveAction.resultingState]
      have charged := (within.opened law grants existing.employee
        existing.organization).use (Int.le_trans zero_le_one days) ctx.now
      rw [Call.chargedLedger_employee, after, Option.filter_some,
        if_pos approved, Option.toList_some, List.map_singleton,
        List.sum_singleton]
      exact charged
  | readBalance permitted found visible own =>
      cases put
      rw [Call.openedLedger_employee]
      exact within.opened law grants _ _
  | settleAccrual permitted terms found visible accepted =>
      cases put
      obtain ⟨_, grant, cap, _⟩ := Settlement.of_eq_ok.1 terms
      exact LeaveBalance.within_of_settle accepted
        ⟨grant, cap, grants.settled _ _ rfl terms⟩ law.approvedDays_nonneg
  | _ =>
      cases put

/-- Every deed keeps the law. -/
theorem Store.LedgersWithin.deed (within : st.LedgersWithin limit)
    (law : LeaveApart st.leave) (new : ctx.NewIds st)
    (grants : c.GrantsAtMost limit ctx)
    (does : c.Does ctx st actor scope w notice reply) :
    (st.write w).LedgersWithin limit := by
  apply Table.forall_mem_putAny
  · intro b kept
    exact (within b kept).mono (does.approvedDays_mono new law _)
  · exact within.written law new grants does

end Deeds

/-- Every run of calls that grant at most `limit` days at once keeps the
law. -/
theorem Run.ledgersWithin {limit : Int} {past : List Step} {st : Store}
    (run : Run past st) (grants : ∀ s ∈ past, s.GrantsAtMost limit) :
    st.LedgersWithin limit := by
  induction run with
  | start =>
      intro b member
      cases member
  | @step past s run new inductionHypothesis =>
      have within := inductionHypothesis
        fun other member => grants other (List.mem_cons_of_mem s member)
      have law := LeaveApart.of_reachable ⟨past, run⟩
      rcases s.after_cases with ⟨_, audit, events, left⟩ |
        ⟨actor, scope, w, notice, reply, audit, events, _, does, left⟩
      · rw [left]
        exact within
      · rw [left]
        exact within.deed law new (grants s List.mem_cons_self) does

/-! ## The range of the figures -/

/-- The figures of every ledger after any run of calls that grant at most
`limit` days at once.  The days granted are between those carried over and the
limit, the days used between none and the civil days that the requests of the
employee cover, and the rest remains.  So they take 64 bits if the limit does
and the calendar has no more days than that. -/
theorem ledger_figures_of_run {limit : Int} {past : List Step} {st : Store}
    (run : Run past st) (grants : ∀ s ∈ past, s.GrantsAtMost limit) :
    ∀ b ∈ st.balances.rows,
      b.Within limit (st.coveredDays b.employee).card ∧
        (limit ≤ maxInt64 → (st.coveredDays b.employee).card ≤ maxInt64 →
          b.FitsInt64) := by
  intro b kept
  have law := LeaveApart.of_reachable ⟨past, run⟩
  have within : b.Within limit (st.coveredDays b.employee).card :=
    (run.ledgersWithin grants b kept).mono law.approvedDays_le
  exact ⟨within, within.fitsInt64⟩

/-- The annual grant of fifteen days and the five that may be carried over. -/
theorem grantsAtMost_officeRun : ∀ s ∈ officeRun, s.GrantsAtMost 20 := by
  intro s member
  have standard : s.ctx.config = Config.standard := by
    revert s
    simp [officeRun, approving, settling, asking, hiring, officeStep]
  refine ⟨?_, ?_, ?_⟩
  · rw [standard]
    rfl
  · rw [standard]
    decide
  · intro input terms called accepted
    obtain ⟨-, -, -, rfl⟩ := Settlement.of_eq_ok.1 accepted
    have usual : input = ⟨"emp-001", 2026, none, none⟩ := by
      clear accepted
      revert s
      simp [officeRun, approving, settling, asking, hiring, officeStep,
        eq_comm]
    rw [usual, Call.settlementTerms, standard]
    decide

/-- After an approval and a settlement the figures are those of a year. -/
theorem ledger_figures_of_officeRun :
    Run officeRun approving.after ∧
      (∀ s ∈ officeRun, s.GrantsAtMost 20) ∧
      ∃ b, approving.after.balances.get? "emp-001" = some b ∧
        b.Within 20 1 ∧ b.FitsInt64 := by
  obtain ⟨b, found⟩ := Option.isSome_iff_exists.1
    (show (approving.after.balances.get? "emp-001").isSome = true by decide)
  have covered : (approving.after.coveredDays b.employee).card = 1 := by
    rw [show b.employee = "emp-001" from Table.key_of_get? found]
    decide +kernel
  obtain ⟨within, fits⟩ := ledger_figures_of_run run_officeRun
    grantsAtMost_officeRun b (Table.mem_of_get? found)
  rw [covered] at within fits
  exact ⟨run_officeRun, grantsAtMost_officeRun, b, found, within,
    fits (by decide) (by decide)⟩

/-- The most days that take 64 bits, for everything that is granted. -/
def lavish : Config :=
  { Config.standard with leave := ⟨maxInt64, maxInt64, maxInt64⟩ }

/-- A step of an admin under this configuration. -/
def lavishStep (before : Store) (fresh : String) (call : Call) : Step :=
  let step := officeStep before fresh call
  { step with ctx := { step.ctx with config := lavish } }

/-- Somebody is hired, and a year is settled. -/
def lavishHiring : Step :=
  lavishStep Store.empty "1"
    (.createEmployee ⟨"emp-001", none, none, none, none⟩)

def lavishSettling : Step :=
  lavishStep lavishHiring.after "2"
    (.settleAccrual ⟨"emp-001", 2026, none, none⟩)

/-- The configuration is valid, and the first settlement under it grants twice
as many days as take 64 bits. -/
theorem ledger_of_lavishRun :
    lavish.validate = .ok () ∧
      Run [lavishSettling, lavishHiring] lavishSettling.after ∧
      (∀ s ∈ [lavishSettling, lavishHiring], s.ctx.config = lavish) ∧
      ∃ b ∈ lavishSettling.after.balances.rows,
        b.grantedDays = maxInt64 + maxInt64 ∧ ¬ b.FitsInt64 := by
  refine ⟨rfl, .step (.step .start ?_) ?_, ?_, ?_⟩
  · exact ⟨rfl, rfl, rfl, rfl, rfl⟩
  · exact ⟨rfl, rfl, rfl, rfl, rfl⟩
  · simp [lavishSettling, lavishHiring, lavishStep]
  · decide +kernel

end Workforce
