import Workforce.Proofs.Pay.Run

/-!
# Consecutive periods

Payroll is run period after period, and both ends of a period belong to it.  So
the instant at which one period ends and the next one begins belongs to both.
This module shows what that comes to for the two periods and the whole of them:

* what counts in the whole counts in one of its parts, and nothing is missed;
* what counts in both parts are the records that start at the common end;
* the parts come to what the whole comes to, and to these records once more.

It is the same with the minutes to be paid, for which only closed records
matter, and with the number of records, for which the open ones do as well.
-/

namespace Workforce

open Service

/-! ## Periods with a common end -/

namespace Period

/-- `p.Joins q whole`: the period `q` begins where `p` ends, and `whole` goes
from the start of `p` to the end of `q`. -/
structure Joins (p q whole : Period) : Prop where
  start : p.start = whole.start
  between : p.finish = q.start
  finish : q.finish = whole.finish

variable {p q whole : Period} {t : Instant}

theorem Joins.contains_iff (joins : p.Joins q whole)
    (forward : p.start < p.finish) (onward : q.start < q.finish) :
    whole.Contains t ↔ p.Contains t ∨ q.Contains t := by
  rw [Contains, Contains, Contains, ← joins.start, ← joins.finish,
    joins.between]
  rw [joins.between] at forward
  simp only [Instant.le_iff, Instant.lt_iff] at forward onward ⊢
  omega

/-- The common end is all that two consecutive periods have in common. -/
theorem Joins.contains_both_iff (joins : p.Joins q whole)
    (forward : p.start < p.finish) (onward : q.start < q.finish) :
    p.Contains t ∧ q.Contains t ↔ t = q.start := by
  rw [Contains, Contains, joins.between]
  rw [joins.between] at forward
  simp only [Instant.le_iff, Instant.lt_iff, Instant.eq_iff]
    at forward onward ⊢
  omega

end Period

/-! ## Records of consecutive periods -/

/-- The approved records that start at an instant, within a scope and for an
employee if one is asked for. -/
def Store.startingAt (st : Store) (scope : TenantScope)
    (employee : Option String) (t : Instant) : Finset AttendanceRecord :=
  {r ∈ st.attendance.rows.toFinset |
    r.state = .approved ∧ scope.Covers r.organization ∧
      (∀ id ∈ employee, r.employee = id) ∧ r.checkIn.instant = t}

section Records

variable {st : Store} {scope : TenantScope} {employee : Option String}
  {p q whole : Period}

/-- No record of the whole is missed by both of its parts. -/
theorem counted_union (joins : p.Joins q whole)
    (forward : p.start < p.finish) (onward : q.start < q.finish) :
    st.counted scope employee p ∪ st.counted scope employee q =
      st.counted scope employee whole := by
  ext r
  have within : whole.Contains r.checkIn.instant ↔ _ :=
    joins.contains_iff forward onward
  simp only [Store.counted, Finset.mem_union, Finset.mem_filter,
    AttendanceRecord.counts_iff, within]
  tauto

/-- The records of both parts are those that start at the common end. -/
theorem counted_inter (joins : p.Joins q whole)
    (forward : p.start < p.finish) (onward : q.start < q.finish) :
    st.counted scope employee p ∩ st.counted scope employee q =
      st.startingAt scope employee q.start := by
  ext r
  have both : _ ↔ r.checkIn.instant = q.start :=
    joins.contains_both_iff forward onward
  simp only [Store.counted, Store.startingAt, Finset.mem_inter,
    Finset.mem_filter, AttendanceRecord.counts_iff, ← both,
    Option.mem_some, forall_eq']
  tauto

end Records

/-! ## Previews of consecutive periods -/

/-- `Previews config caller st input run`: asked by a caller for a period, with
deductions or without, the store shows a preview with this run. -/
inductive Previews (config : Config) (caller : Option Actor) (st : Store)
    (input : PreviewInput) : PayrollRun → Prop where
  | gross {ctx : Context} {sinks : Sinks} {p : PayrollPreview}
      (same : ctx.config = config) (called : ctx.actor = caller)
      (shown : ((Call.previewPayroll input).perform ctx sinks st).1 =
        .ok (.preview p)) : Previews config caller st input p.run
  | net {ctx : Context} {sinks : Sinks} {p : PayrollPreview}
      {request : DeductionRequest}
      (same : ctx.config = config) (called : ctx.actor = caller)
      (shown : ((Call.previewPayrollWithDeductions input request).perform
        ctx sinks st).1 = .ok (.preview p)) :
      Previews config caller st input p.run

/-- `PaysFor counted run`: a run comes to what records come to, the open ones
apart, and counts all of them. -/
structure PaysFor (counted : Finset AttendanceRecord) (run : PayrollRun) :
    Prop where
  totals : run.totals = ∑ r ∈ counted with ¬ r.IsOpen, r.minutes
  count : run.sourceRecordCount = counted.card

/-- Three periods to be priced for one employee or for all of them: one, the
next one and the whole of both. -/
structure Consecutive (first second whole : PreviewInput) : Prop where
  periods : first.period.Joins second.period whole.period
  firstEmployee : first.employee = whole.employee
  secondEmployee : second.employee = whole.employee

section Runs

variable {config : Config} {caller : Option Actor} {st : Store}
  {input : PreviewInput} {run : PayrollRun}

/-- A preview without deductions pays for the records that count. -/
theorem paysFor_of_grossPreview {ctx : Context} {sinks : Sinks}
    {p : PayrollPreview}
    (shown : ((Call.previewPayroll input).perform ctx sinks st).1 =
      .ok (.preview p)) :
    ∃ scope, TenantScope.resolve ctx.actor ctx.config.features.tenancy =
        .ok scope ∧
      input.period.start < input.period.finish ∧
        PaysFor (st.counted scope input.employee input.period) p.run := by
  obtain ⟨actor, scope, priced, authorized, _, price, made⟩ :=
    previewPayroll_eq_ok shown
  obtain ⟨totals, count⟩ := pricePeriod_totals price
  refine ⟨scope, (Context.authorize_eq_ok.1 authorized).2,
    (checks_of_pricePeriod price).period, ?_, ?_⟩
  · rw [made, ← paidMinutes_listApproved]
    exact totals
  · rw [made, ← length_listApproved]
    exact count

/-- Deductions make no difference to what a preview pays for. -/
theorem Previews.paysFor (previews : Previews config caller st input run) :
    ∃ scope, TenantScope.resolve caller config.features.tenancy =
        .ok scope ∧
      input.period.start < input.period.finish ∧
        PaysFor (st.counted scope input.employee input.period) run := by
  cases previews with
  | gross same called shown =>
      rw [← same, ← called]
      exact paysFor_of_grossPreview shown
  | @net ctx _ _ _ same called shown =>
      obtain ⟨p, plain, alike⟩ :=
        @previewPayroll_of_netPreview ctx ctx _ _ _ _ _ rfl rfl shown
      obtain ⟨scope, resolved, forward, pays⟩ :=
        paysFor_of_grossPreview plain
      rw [← same, ← called]
      exact ⟨scope, resolved, forward, alike.totals.trans pays.totals,
        alike.sourceRecordCount.trans pays.count⟩

/-- Two runs come to what the runs of the records of either and of both come
to. -/
theorem PaysFor.add {counted others : Finset AttendanceRecord}
    {first second whole : PayrollRun} (one : PaysFor counted first)
    (next : PaysFor others second)
    (all : PaysFor (counted ∪ others) whole) :
    first.totals + second.totals =
        whole.totals + ∑ r ∈ counted ∩ others with ¬ r.IsOpen, r.minutes ∧
      first.sourceRecordCount + second.sourceRecordCount =
        whole.sourceRecordCount + (counted ∩ others).card := by
  refine ⟨?_, ?_⟩
  · rw [one.totals, next.totals, all.totals, Finset.filter_union,
      Finset.filter_inter_distrib]
    exact Finset.sum_union_inter.symm
  · rw [one.count, next.count, all.count]
    exact (Finset.card_union_add_card_inter _ _).symm

end Runs

/-- Previews of two consecutive periods and of the whole of both, shown to one
caller, on whatever terms and with whatever deductions.  Each pays for the
records that count in its period.  The records that count in both periods are
those that start at their common end, and no record of the whole is missed; so
the two come to what the whole comes to and to the records of the common end
once more. -/
theorem previews_of_consecutive {config : Config} {caller : Option Actor}
    {st : Store} {i j k : PreviewInput} {first second whole : PayrollRun}
    (consecutive : Consecutive i j k)
    (previewed : Previews config caller st i first)
    (next : Previews config caller st j second)
    (all : Previews config caller st k whole) :
    ∃ scope, TenantScope.resolve caller config.features.tenancy =
        .ok scope ∧
      let counted (input : PreviewInput) :=
        st.counted scope input.employee input.period
      let shared := st.startingAt scope k.employee j.period.start
      PaysFor (counted i) first ∧ PaysFor (counted j) second ∧
        PaysFor (counted k) whole ∧
      counted i ∩ counted j = shared ∧ counted i ∪ counted j = counted k ∧
      first.totals + second.totals =
        whole.totals + ∑ r ∈ shared with ¬ r.IsOpen, r.minutes ∧
      first.sourceRecordCount + second.sourceRecordCount =
        whole.sourceRecordCount + shared.card := by
  obtain ⟨scope, resolved, forward, paid⟩ := previewed.paysFor
  obtain ⟨scope', resolved', onward, paidNext⟩ := next.paysFor
  obtain ⟨scope'', resolved'', _, paidAll⟩ := all.paysFor
  -- The scope is that of the caller, and the employee is the same as well.
  rw [resolved] at resolved' resolved''
  cases resolved'
  cases resolved''
  rw [consecutive.firstEmployee] at paid
  rw [consecutive.secondEmployee] at paidNext
  have shared := @counted_inter st scope k.employee _ _ _
    consecutive.periods forward onward
  have union := @counted_union st scope k.employee _ _ _
    consecutive.periods forward onward
  have sums := paid.add paidNext (union ▸ paidAll)
  rw [shared] at sums
  refine ⟨scope, resolved, ?_⟩
  simp only [consecutive.firstEmployee, consecutive.secondEmployee]
  exact ⟨paid, paidNext, paidAll, shared, union, sums.1, sums.2⟩

/-! ## Two hours that meet -/

/-- The hour before 1970 and the hours after its start, and all of them. -/
def hourBefore : PreviewInput :=
  ⟨.ofInstant ⟨-3600000000000⟩, .ofInstant ⟨0⟩, none, none, none⟩

def hoursAround : PreviewInput :=
  ⟨.ofInstant ⟨-3600000000000⟩, .ofInstant ⟨7200000000000⟩, none, none,
    none⟩

theorem consecutive_hours :
    Consecutive hourBefore firstHours hoursAround :=
  ⟨⟨rfl, rfl, rfl⟩, rfl, rfl⟩

/-- Two shifts start with 1970, one of an hour and one that is still on.  Both
count before and after, and the hour is paid twice. -/
theorem previews_of_hours :
    ∃ first second whole,
      Previews Config.standard approvingOpen.ctx.actor approvingOpen.after
          hourBefore first ∧
        Previews Config.standard approvingOpen.ctx.actor approvingOpen.after
          firstHours second ∧
        Previews Config.standard approvingOpen.ctx.actor approvingOpen.after
          hoursAround whole ∧
        whole.totals = ⟨0, 0, 0, 60⟩ ∧ whole.sourceRecordCount = 2 ∧
        first.totals + second.totals = whole.totals + ⟨0, 0, 0, 60⟩ ∧
        first.sourceRecordCount + second.sourceRecordCount =
          whole.sourceRecordCount + 2 := by
  obtain ⟨first, previewed⟩ : ∃ first, Previews Config.standard
      approvingOpen.ctx.actor approvingOpen.after hourBefore first :=
    ⟨_, @Previews.gross _ _ _ _ approvingOpen.ctx .working _ rfl rfl rfl⟩
  obtain ⟨second, next⟩ : ∃ second, Previews Config.standard
      approvingOpen.ctx.actor approvingOpen.after firstHours second :=
    ⟨_, @Previews.gross _ _ _ _ approvingOpen.ctx .working _ rfl rfl rfl⟩
  obtain ⟨whole, all, totals, count⟩ : ∃ whole,
      Previews Config.standard approvingOpen.ctx.actor approvingOpen.after
          hoursAround whole ∧
        whole.totals = ⟨0, 0, 0, 60⟩ ∧ whole.sourceRecordCount = 2 :=
    ⟨_, @Previews.gross _ _ _ _ approvingOpen.ctx .working _ rfl rfl rfl,
      rfl, rfl⟩
  obtain ⟨scope, resolved, _, _, _, _, _, sums, counts⟩ :=
    previews_of_consecutive consecutive_hours previewed next all
  cases resolved
  have hour : (∑ r ∈ approvingOpen.after.startingAt .everything none ⟨0⟩
      with ¬ r.IsOpen, r.minutes) = ⟨0, 0, 0, 60⟩ := by
    decide +kernel
  have two : (approvingOpen.after.startingAt .everything none ⟨0⟩).card =
      2 := by
    decide +kernel
  refine ⟨first, second, whole, previewed, next, all, totals, count, ?_, ?_⟩
  · rw [sums]
    exact congrArg _ hour
  · rw [counts]
    exact congrArg _ two

end Workforce
