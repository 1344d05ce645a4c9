import Workforce.Proofs.Leave.Range

/-!
# Ledgers in 64 bits

The figures of a ledger take 64 bits each, and its sums are not checked: one
that does not fit wraps around, or the call stops.  So what is said of a ledger
in exact integers is true of the ledger that is kept as long as all figures fit.
This module says when they do:

* in a run of calls that grant no more days at once than take 64 bits, the
  figures fit after every step, and are those of the history;
* a valid settlement of an open year succeeds if its grant takes 64 bits
  together with what is carried over.

Neither is ensured by the checks.  Under a valid configuration the first
settlement can be one whose figures do not fit.
-/

namespace Workforce

/-! ## Figures that fit -/

/-- After a step, the requests of no employee cover more days than take 64
bits. -/
def Step.KeepsCalendar (s : Step) : Prop :=
  ∀ employee, (s.after.coveredDays employee).card ≤ maxInt64

/-- That is so as long as all requests together have no more days. -/
theorem Run.keepsCalendar {past : List Step} {st : Store} (run : Run past st)
    (few : ∀ s ∈ past, s.after.leave.total LeaveRequest.days ≤ maxInt64) :
    ∀ s ∈ past, s.KeepsCalendar := by
  intro s member employee
  obtain ⟨_, earlier, _, upto⟩ := run.upto member
  have law := LeaveApart.of_reachable ⟨s :: earlier, upto⟩
  exact (law.coveredDays_le employee).trans (few s member)

/-- Where no more is granted at once than takes 64 bits, the figures fit after
every step. -/
theorem Run.fitsInt64 {limit : Int} {past : List Step} {st : Store}
    (run : Run past st) (grants : ∀ s ∈ past, s.GrantsAtMost limit)
    (bounded : limit ≤ maxInt64) (calendar : ∀ s ∈ past, s.KeepsCalendar) :
    ∀ s ∈ past, ∀ b ∈ s.after.balances.rows, b.FitsInt64 := by
  intro s member b kept
  obtain ⟨later, earlier, split, upto⟩ := run.upto member
  have sofar : ∀ t ∈ s :: earlier, t.GrantsAtMost limit := by
    intro t before
    apply grants
    rw [split]
    exact List.mem_append_right later before
  have law := LeaveApart.of_reachable ⟨s :: earlier, upto⟩
  have within := (upto.ledgersWithin sofar b kept).mono law.approvedDays_le
  exact within.fitsInt64 bounded (calendar s member b.employee)

/-- The figures at the start of a year fit if what is granted does. -/
theorem LeaveBalance.StartsYear.fitsInt64 {b : LeaveBalance}
    {terms : Settlement} (starts : b.StartsYear terms)
    (grant : 0 < terms.annualGrantDays)
    (bounded : terms.annualGrantDays + b.carryOverDays ≤ maxInt64) :
    b.FitsInt64 := by
  obtain ⟨unused, _, granted, remaining, noDebt, _⟩ := starts
  simp only [FitsInt64, List.mem_cons, List.not_mem_nil, or_false]
  unfold minInt64 maxInt64 at *
  rintro n (rfl | rfl | rfl | rfl) <;> omega

/-! ## The figures of a history -/

/-- The figures of every ledger are those of its employee's history, over any
run with one configuration and working sinks whose calls grant no more days at
once than take 64 bits.  The used days are the days of the requests that were
approved since the last settlement, and the rest of the days granted remains.
If nothing was settled, the days granted are those of the configuration and
none were carried over; otherwise they are the annual grant and the days
carried over, which are what remained just before, but no debt and no more than
the cap.  No figure left 64 bits at any step, and nothing else changes a
ledger. -/
theorem ledger_of_history {config : Config} {limit : Int} {past : List Step}
    {st : Store} (run : Run past st)
    (configured : ∀ s ∈ past, s.ctx.config = config)
    (working : ∀ s ∈ past, s.sinks = .working)
    (grants : ∀ s ∈ past, s.GrantsAtMost limit) (bounded : limit ≤ maxInt64)
    (calendar : ∀ s ∈ past, s.KeepsCalendar) :
    (∀ employee b, st.balances.get? employee = some b →
      b.Accounts config past st employee) ∧
    (∀ s ∈ past, ∀ b ∈ s.after.balances.rows, b.FitsInt64) ∧
    ∀ s ∈ past, ∀ employee b, s.before.balances.get? employee = some b →
      s.settlement? employee = none →
      (∀ id r, s.before.leave.get? id = some r → r.employee = employee →
        s.approves id = false) →
      s.after.balances.get? employee = some b := by
  refine ⟨?_, run.fitsInt64 grants bounded calendar, ?_⟩
  · intro employee b found
    exact run.accounts configured working found
  · intro s member employee b found unsettled unapproved
    have deed := s.leave_deed (run.newIds s member) (working s member)
    exact deed.ledger_unchanged found unsettled unapproved

/-- A request that waited for a settlement is charged to the new year. -/
theorem ledger_of_officeRun :
    Run officeRun approving.after ∧
      (∀ s ∈ officeRun, s.ctx.config = Config.standard) ∧
      (∀ s ∈ officeRun, s.sinks = .working) ∧
      (∀ s ∈ officeRun, s.GrantsAtMost 20) ∧
      (∀ s ∈ officeRun, s.KeepsCalendar) ∧
      ∃ b, approving.after.balances.get? "emp-001" = some b ∧
        b.Accounts Config.standard officeRun approving.after "emp-001" ∧
        b.FitsInt64 := by
  have configured : ∀ s ∈ officeRun, s.ctx.config = Config.standard := by
    simp [officeRun, approving, settling, asking, hiring, officeStep]
  have working : ∀ s ∈ officeRun, s.sinks = .working := by
    simp [officeRun, approving, settling, asking, hiring, officeStep]
  have calendar := run_officeRun.keepsCalendar (by decide)
  obtain ⟨b, found⟩ := Option.isSome_iff_exists.1
    (show (approving.after.balances.get? "emp-001").isSome = true by decide)
  obtain ⟨law, fits, _⟩ := ledger_of_history run_officeRun configured working
    grantsAtMost_officeRun (by decide) calendar
  exact ⟨run_officeRun, configured, working, grantsAtMost_officeRun, calendar,
    b, found, law "emp-001" b found,
    fits approving List.mem_cons_self b (Table.mem_of_get? found)⟩

/-- A year with the most days that take 64 bits. -/
def generous : Config :=
  let leave := { Config.standard.leave with annualGrantDays := maxInt64 }
  { Config.standard with leave }

/-- The step, under another configuration. -/
def Step.onTerms (s : Step) (config : Config) : Step :=
  { s with ctx := { s.ctx with config } }

def generousHiring : Step :=
  hiring.onTerms generous

/-- The first year is settled on the terms of the configuration. -/
def generousSettling : Step :=
  (officeStep generousHiring.after "2"
    (.settleAccrual ⟨"emp-001", 2026, none, none⟩)).onTerms generous

/-- The configuration is valid and the run is one of two calls.  The days that
the law says are granted, the annual grant and five days carried over, are more
than the ledger has room for. -/
theorem ledger_of_generousRun :
    generous.validate = .ok () ∧
      Run [generousSettling, generousHiring] generousSettling.after ∧
      (∀ s ∈ [generousSettling, generousHiring],
        s.ctx.config = generous ∧ s.sinks = .working) ∧
      generousSettling.settlement? "emp-001" = some ⟨2026, maxInt64, 5⟩ ∧
      ∃ b ∈ generousSettling.after.balances.rows,
        b.carryOverDays = 5 ∧ b.grantedDays = maxInt64 + 5 ∧
          ¬ b.FitsInt64 := by
  refine ⟨rfl, .step (.step .start ?_) ?_, ?_, by decide, ?_⟩
  · exact ⟨rfl, rfl, rfl, rfl, rfl⟩
  · exact ⟨rfl, rfl, rfl, rfl, rfl⟩
  · simp [generousSettling, generousHiring, hiring, officeStep, Step.onTerms]
  · decide +kernel

/-! ## The figures of a settlement -/

/-- Settlements in a run whose sinks are in order.  The years settled for an
employee fall from the latest to the first, so that none is settled twice, and
each of them starts the year in the ledger, with figures that fit as long as
the terms do.  No other step changes the year that a ledger bears.  A valid and
permitted settlement of a year that is not open is a conflict that changes
nothing.  One of an open year succeeds, if the annual grant takes 64 bits
together with the days carried over. -/
theorem settlements_of_run {past : List Step} {st : Store}
    (run : Run past st) (working : ∀ s ∈ past, s.sinks = .working) :
    (∀ employee, (settledYears employee past).Pairwise (· > ·) ∧
      (settledYears employee past).Nodup) ∧
    (∀ s ∈ past, ∀ employee terms, s.settlement? employee = some terms →
      ∃ b, s.after.balances.get? employee = some b ∧ b.StartsYear terms ∧
        (terms.annualGrantDays + b.carryOverDays ≤ maxInt64 →
          b.FitsInt64)) ∧
    (∀ s ∈ past, ∀ employee, s.settlement? employee = none →
      s.after.lastYear? employee = s.before.lastYear? employee) ∧
    ∀ ctx actor scope input employee,
      Service.Settles ctx st actor scope input employee →
        let terms := Call.settlementTerms ctx input
        let carried := st.carriedOver employee.id
          ctx.config.leave.grantedDays terms
        (st.YearOpen employee.id input.year →
          terms.annualGrantDays + carried ≤ maxInt64 →
            ∃ b, ((Call.settleAccrual input).perform ctx .working st).1 =
                .ok (.balance b) ∧
              ((Call.settleAccrual input).perform ctx .working
                st).2.balances.get? employee.id = some b ∧
              b.StartsYear terms ∧ b.carryOverDays = carried ∧
              b.FitsInt64) ∧
        (¬ st.YearOpen employee.id input.year →
          ∀ sinks, (Call.settleAccrual input).perform ctx sinks st =
            (Outcome.refuse Service.settlementConflict, st)) := by
  refine ⟨?_, ?_, ?_, ?_⟩
  · intro employee
    have falling := (run.years working employee).2
    exact ⟨falling, falling.imp fun later => Int.ne_of_gt later⟩
  · intro s member employee terms settlement
    obtain ⟨_, grant, b, found, starts⟩ :=
      Step.startsYear_of_settlement? settlement
    exact ⟨b, found, starts, starts.fitsInt64 grant⟩
  · intro s member employee unsettled
    have deed := s.leave_deed (run.newIds s member) (working s member)
    exact deed.lastYear?_of_unsettled unsettled
  · intro ctx actor scope input employee settles terms carried
    refine ⟨?_, settles.perform_of_settled⟩
    intro yearOpen bounded
    obtain ⟨b, replied, kept, starts, same⟩ :=
      settles.perform_of_open yearOpen
    exact ⟨b, replied, kept, starts, same,
      starts.fitsInt64 settles.grant (by rw [same]; exact bounded)⟩

/-! ## A year that starts in debt -/

/-- Twenty days of leave are asked for. -/
def askingLong : Step :=
  officeStep hiring.after "2"
    (.createLeave ⟨"emp-001", .annual, .ofInstant ⟨0⟩,
      .ofInstant ⟨19 * Instant.perDay⟩, none⟩)

/-- The leave is approved, though only fifteen days were granted. -/
def approvingLong : Step :=
  officeStep askingLong.after "3" (.approveLeave "2")

def settlingDebt : Step :=
  officeStep approvingLong.after "4"
    (.settleAccrual ⟨"emp-001", 2026, none, none⟩)

/-- The steps of the run, the latest first. -/
def debtRun : List Step :=
  [settlingDebt, approvingLong, askingLong, hiring]

theorem run_debtRun : Run debtRun settlingDebt.after := by
  refine .step (.step (.step (.step .start ?_) ?_) ?_) ?_
  · exact ⟨rfl, rfl, rfl, rfl, rfl⟩
  · exact ⟨rfl, rfl, rfl, rfl, rfl⟩
  · exact ⟨rfl, by decide, rfl, rfl, rfl⟩
  · exact ⟨rfl, by decide, rfl, rfl, rfl⟩

/-- A settlement on the terms of the configuration, by an admin who sees
everybody. -/
theorem settles_of_config {ctx : Context} {st : Store} {year : Int}
    {employee : Employee} (tenancy : ctx.config.features.tenancy = false)
    (called : ctx.actor =
      some { id := "adm-001", role := .admin, organization := none })
    (grant : 0 < ctx.config.leave.annualGrantDays)
    (cap : 0 ≤ ctx.config.leave.carryOverCapDays)
    (digits : 2000 ≤ year ∧ year ≤ 9999)
    (found : st.employees.get? "emp-001" = some employee) :
    Service.Settles ctx st
      { id := "adm-001", role := .admin, organization := none } .everything
      ⟨"emp-001", year, none, none⟩ employee where
  authorized := by
    refine Context.authorize_eq_ok.2 ⟨called, ?_⟩
    rw [tenancy]
    rfl
  permitted := by decide
  year := digits
  grant := grant
  cap := cap
  found := found
  visible := rfl

/-- Five days were used too many.  The year that is settled then starts with
nothing used and nothing carried over; it cannot be settled again, but the next
one can. -/
theorem settlements_of_debtRun :
    (approvingLong.after.balances.get? "emp-001").map
        LeaveBalance.remainingDays = some (-5) ∧
      settledYears "emp-001" debtRun = [2026] ∧
      (settledYears "emp-001" debtRun).Pairwise (· > ·) ∧
      (∃ b, settlingDebt.after.balances.get? "emp-001" = some b ∧
        b.StartsYear ⟨2026, 15, 5⟩) ∧
      (Call.settleAccrual ⟨"emp-001", 2026, none, none⟩).perform
        settlingDebt.ctx .working settlingDebt.after =
          (Outcome.refuse Service.settlementConflict, settlingDebt.after) ∧
      ∃ b, ((Call.settleAccrual ⟨"emp-001", 2027, none, none⟩).perform
        settlingDebt.ctx .working settlingDebt.after).1 =
          .ok (.balance b) ∧ b.FitsInt64 := by
  have working : ∀ s ∈ debtRun, s.sinks = .working := by
    simp [debtRun, settlingDebt, approvingLong, askingLong, hiring, officeStep]
  obtain ⟨rising, starts, _, settling⟩ :=
    settlements_of_run run_debtRun working
  have found : settlingDebt.after.employees.get? "emp-001" = some hired := by
    decide
  have settles : ∀ {year : Int}, 2000 ≤ year ∧ year ≤ 9999 →
      Service.Settles settlingDebt.ctx settlingDebt.after
        { id := "adm-001", role := .admin, organization := none } .everything
        ⟨"emp-001", year, none, none⟩ hired :=
    fun digits => settles_of_config rfl rfl (by decide) (by decide) digits found
  have bears : settlingDebt.after.lastYear? "emp-001" = some 2026 := by decide
  have settledAlready : ¬ settlingDebt.after.YearOpen "emp-001" 2026 := by
    intro yearOpen
    exact Int.lt_irrefl 2026 (yearOpen 2026 bears)
  have nextOpen : settlingDebt.after.YearOpen "emp-001" 2027 := by
    intro last known
    rw [bears] at known
    cases known
    decide
  refine ⟨by decide, by decide, (rising "emp-001").1, ?_, ?_, ?_⟩
  · obtain ⟨b, kept, year, _⟩ :=
      starts settlingDebt List.mem_cons_self "emp-001" ⟨2026, 15, 5⟩
        (by decide)
    exact ⟨b, kept, year⟩
  · exact (settling _ _ _ _ _ (settles (by decide))).2 settledAlready .working
  · obtain ⟨b, replied, _, _, _, fits⟩ :=
      (settling _ _ _ _ _ (settles (by decide))).1 nextOpen (by decide)
    exact ⟨b, replied, fits⟩

/-- A year with a few days less than the most that take 64 bits, and a cap that
is somewhat higher than usual. -/
def strained : Config :=
  { Config.standard with
    leave :=
      { grantedDays := 15
        annualGrantDays := maxInt64 - 7
        carryOverCapDays := 15 } }

/-- The configuration is valid, and so is a settlement on its terms.  Nothing
was settled for the employee; but a ledger that starts the year would have to
grant more days than it has room for. -/
theorem settlement_beyond_int64 :
    strained.validate = .ok () ∧ Reachable hiring.after ∧
      Service.Settles { hiring.ctx with config := strained } hiring.after
        { id := "adm-001", role := .admin, organization := none } .everything
        ⟨"emp-001", 2026, none, none⟩ hired ∧
      hiring.after.YearOpen hired.id 2026 ∧
      ∀ b : LeaveBalance, b.StartsYear ⟨2026, maxInt64 - 7, 15⟩ →
        b.carryOverDays = hiring.after.carriedOver hired.id 15
          ⟨2026, maxInt64 - 7, 15⟩ →
        ¬ b.FitsInt64 := by
  have reached : Run [hiring] hiring.after :=
    .step .start ⟨rfl, rfl, rfl, rfl, rfl⟩
  refine ⟨rfl, ⟨_, reached⟩, settles_of_config rfl rfl (by decide) (by decide)
    (by decide) (by decide), ?_, ?_⟩
  · intro last bears
    cases bears
  · intro b starts carried fits
    have granted := starts.granted
    rw [carried] at granted
    have most := (fits b.grantedDays List.mem_cons_self).2
    rw [granted] at most
    revert most
    decide

end Workforce
