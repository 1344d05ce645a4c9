import Workforce.Proofs.Pay.Price

/-!
# Two views of a period

What the approved records of a period come to is shown in a preview of payroll
and in the aggregates of the employees.  This module shows that a caller who
gets to see both sees the same minutes in both, those of the approved and
closed records that are asked for, whatever the store is.  The counts differ by
the records that are still open: a preview counts these as well.

Neither view depends on an order: not on that in which the tables have their
rows, nor on that in which records were made and approved, under whatever ids
and at whatever times.
-/

namespace Workforce

open Service

/-! ## Two views of one period -/

/-- `TwoViews config caller input st p rows`: asked by one caller for one
period and one employee, or for all of them, the store shows a preview and
aggregates. -/
structure TwoViews (config : Config) (caller : Option Actor)
    (input : PreviewInput) (st : Store) (p : PayrollPreview)
    (rows : List AttendanceAggregate) : Prop where
  preview : ∃ ctx sinks, ctx.config = config ∧ ctx.actor = caller ∧
    ((Call.previewPayroll input).perform ctx sinks st).1 =
      .ok (.preview p)
  aggregates : ∃ ctx sinks state, ctx.config = config ∧
    ctx.actor = caller ∧
      ((Call.listAggregates ⟨input.period, input.employee, state⟩).perform
        ctx sinks st).1 = .ok (.aggregates rows)

/-- `ShowTotals counted run rows`: a run and aggregates both show what records
come to, the open ones apart. -/
structure ShowTotals (counted : Finset AttendanceRecord) (run : PayrollRun)
    (rows : List AttendanceAggregate) : Prop where
  totals : run.totals = (rows.map AttendanceAggregate.totals).sum
  minutes : run.totals = ∑ r ∈ counted with ¬ r.IsOpen, r.minutes
  count : run.sourceRecordCount =
    (rows.map AttendanceAggregate.recordCount).sum +
      (counted.filter AttendanceRecord.IsOpen).card

section Views

variable {ctx : Context} {st other : Store} {scope : TenantScope}
  {input : PreviewInput}

/-- Who may preview payroll is shown the aggregates of whom they ask for. -/
theorem Actor.listedEmployee_of_previewer {actor : Actor}
    (permitted : actor.may .runPreview = true)
    (requested : Option String) :
    actor.listedEmployee requested = requested := by
  rw [Actor.listedEmployee, if_neg]
  intro role
  rw [Actor.may, role] at permitted
  revert permitted
  decide

/-- What a preview shows of the store is a priced period. -/
theorem previewPayroll_eq_ok {sinks : Sinks} {p : PayrollPreview}
    (shown : ((Call.previewPayroll input).perform ctx sinks st).1 =
      .ok (.preview p)) :
    ∃ actor scope priced, ctx.authorize = .ok (actor, scope) ∧
      actor.may .runPreview = true ∧
        pricePeriod ctx st scope input = .ok priced ∧
          p.run = priced.toRun ctx scope input := by
  have done := Call.reply_of_perform shown
  have comes := Call.effect_comes ctx st (.previewPayroll input)
  generalize (Call.previewPayroll input).effect ctx st = e at done comes
  cases comes with
  | failed failure =>
      cases done
  | looked reply only =>
      cases only
  | warned authorized call conflict silent =>
      cases call
  | halted authorized call does beyond =>
      cases call
  | done authorized does =>
      cases does with
      | previewPayroll permitted price =>
          cases done
          exact ⟨_, _, _, authorized, permitted, price, rfl⟩

theorem listAggregates_eq_ok {sinks : Sinks} {query : RecordQuery}
    {rows : List AttendanceAggregate}
    (shown : ((Call.listAggregates query).perform ctx sinks st).1 =
      .ok (.aggregates rows)) :
    ∃ actor scope, ctx.authorize = .ok (actor, scope) ∧
      rows = AttendanceAggregate.ofMinutes (paidMinutes ((st.listApproved
        scope (actor.listedEmployee query.employee) query.period).map
          AttendanceRecord.shift)) := by
  have done := Call.reply_of_perform shown
  obtain ⟨_, listed, same⟩ := Call.reading_eq_ok done
  cases same
  simp only [Service.listAggregates, Outcome.bind_eq_ok] at listed
  obtain ⟨⟨actor, scope⟩, authorized, _, _, employee, filtered, counted⟩ :=
    listed
  have usual := ListPermissions.usual (p := .aggregates) (by simp)
  have own := usual.filter_eq_ok filtered
  subst own
  exact ⟨actor, scope, authorized,
    AttendanceAggregate.eq_of_ofRecords (Outcome.ofAmount_eq_ok.1 counted)⟩

/-- A preview and aggregates do not depend on the order of rows either. -/
theorem previewPayroll_of_sameRows (same : st.SameRows other) :
    ∃ after, (Call.previewPayroll input).effect ctx other =
      { (Call.previewPayroll input).effect ctx st with store := after } := by
  have price : ∀ scope, pricePeriod ctx other scope input =
      pricePeriod ctx st scope input := by
    intro scope
    simp only [pricePeriod, same.listRecords_eq, same.requireEmployee_eq]
  simp only [Call.effect, Service.previewPayroll, price]
  cases ctx.authorize with
  | error failure =>
      exact ⟨other, rfl⟩
  | ok authority =>
      obtain ⟨actor, scope⟩ := authority
      simp only [Outcome.ok_bind]
      cases requirePreviewer actor with
      | error failure =>
          exact ⟨other, rfl⟩
      | ok passed =>
          simp only [Outcome.ok_bind]
          cases pricePeriod ctx st scope input with
          | error failure =>
              exact ⟨other, rfl⟩
          | ok priced =>
              exact ⟨_, rfl⟩

theorem listAggregates_of_sameRows (same : st.SameRows other)
    {query : RecordQuery} :
    (Call.listAggregates query).effect ctx other =
      { (Call.listAggregates query).effect ctx st with store := other } := by
  simp only [Call.effect, Service.listAggregates, same.listRecords_eq]
  rfl

end Views

namespace TwoViews

variable {config : Config} {caller : Option Actor} {input : PreviewInput}
  {st other : Store} {p : PayrollPreview} {rows : List AttendanceAggregate}

/-- Both views are of the same list of records. -/
theorem shown (views : TwoViews config caller input st p rows) :
    ∃ scope, TenantScope.resolve caller config.features.tenancy =
        .ok scope ∧
      p.run.totals =
        st.paidMinutes scope input.employee input.period ∧
      p.run.sourceRecordCount =
        (st.listApproved scope input.employee input.period).length ∧
      rows = AttendanceAggregate.ofMinutes (paidMinutes ((st.listApproved
        scope input.employee input.period).map
          AttendanceRecord.shift)) := by
  obtain ⟨⟨ctx, sinks, rfl, rfl, previewed⟩,
    ctx', sinks', state, sameConfig, sameCaller, listed⟩ := views
  obtain ⟨actor, scope, priced, authorized, permitted, price, run⟩ :=
    previewPayroll_eq_ok previewed
  obtain ⟨actor', scope', authorized', aggregated⟩ :=
    listAggregates_eq_ok listed
  -- Nothing but the configuration and the caller decides on the scope.
  have sameAuthority : ctx'.authorize = ctx.authorize := by
    rw [Context.authorize, Context.authorize, sameConfig, sameCaller]
  rw [sameAuthority, authorized] at authorized'
  cases authorized'
  obtain ⟨totals, count⟩ := pricePeriod_totals price
  rw [Actor.listedEmployee_of_previewer permitted] at aggregated
  have resolved := (Context.authorize_eq_ok.1 authorized).2
  refine ⟨scope, resolved, ?_, ?_, aggregated⟩
  · rw [run]
    exact totals
  · rw [run]
    exact count

/-- Both views come to the same. -/
theorem showTotals (views : TwoViews config caller input st p rows) :
    ∃ scope, TenantScope.resolve caller config.features.tenancy =
        .ok scope ∧
      ShowTotals (st.counted scope input.employee input.period) p.run
        rows := by
  obtain ⟨scope, resolved, totals, count, aggregated⟩ := views.shown
  refine ⟨scope, resolved, ?_, ?_, ?_⟩
  · rw [totals, aggregated, AttendanceAggregate.sum_ofMinutes_totals]
    rfl
  · rw [totals, paidMinutes_listApproved]
  · rw [count, length_listApproved, aggregated,
      AttendanceAggregate.sum_ofMinutes_recordCount,
      length_paidMinutes_listApproved, Nat.add_comm]
    exact (Finset.card_filter_add_card_filter_not _).symm

/-- The views depend only on which shifts are approved. -/
theorem eq_of_perm {p' : PayrollPreview} {rows' : List AttendanceAggregate}
    (views : TwoViews config caller input st p rows)
    (views' : TwoViews config caller input other p' rows')
    (same : (other.approved.map AttendanceRecord.shift).Perm
      (st.approved.map AttendanceRecord.shift)) :
    p'.run.totals = p.run.totals ∧
      p'.run.sourceRecordCount = p.run.sourceRecordCount ∧ rows' = rows := by
  obtain ⟨scope, resolved, totals, count, aggregated⟩ := views.shown
  obtain ⟨scope', resolved', totals', count', aggregated'⟩ := views'.shown
  rw [resolved] at resolved'
  cases resolved'
  -- All that is shown is computed from the shifts of the list.
  have listed := @listApproved_of_perm other st scope input.employee
    input.period same
  have items := listed.filterMap Shift.paid?
  refine ⟨?_, ?_, ?_⟩
  · rw [totals, totals']
    exact (items.map Prod.snd).sum_eq
  · have lengths := listed.length_eq
    rw [List.length_map, List.length_map] at lengths
    rw [count, count', lengths]
  · rw [aggregated, aggregated']
    exact AttendanceAggregate.ofMinutes_of_perm items.symm

/-- A store with the same entities shows the same, in whatever order its
tables have them. -/
theorem of_sameRows (views : TwoViews config caller input st p rows)
    (same : st.SameRows other) :
    TwoViews config caller input other p rows := by
  obtain ⟨⟨ctx, sinks, sameConfig, sameCaller, previewed⟩,
    ctx', sinks', state, sameConfig', sameCaller', listed⟩ := views
  refine ⟨⟨ctx, sinks, sameConfig, sameCaller, ?_⟩,
    ctx', sinks', state, sameConfig', sameCaller', ?_⟩
  · obtain ⟨after, preview⟩ := previewPayroll_of_sameRows same
    rw [Call.perform_reply_of_store preview, previewed]
  · rw [Call.perform_reply_of_store (listAggregates_of_sameRows same),
      listed]

end TwoViews

/-- In any reachable store a caller who gets to see both a preview and the
aggregates of a period sees the same totals in both, and these are the minutes
of the records that count and are closed.  The preview counts these records and
the ones that are still open.  After any other run that approved the same
shifts, in whatever order they were recorded and approved, the caller sees the
same; and so it is in any store with the same entities, whatever order its
tables have. -/
theorem preview_agrees_with_aggregates {past : List Step} {st : Store}
    (run : Run past st) {config : Config} {caller : Option Actor}
    {input : PreviewInput} {p : PayrollPreview}
    {rows : List AttendanceAggregate}
    (views : TwoViews config caller input st p rows) :
    (∃ scope, TenantScope.resolve caller config.features.tenancy =
        .ok scope ∧
      ShowTotals (st.counted scope input.employee input.period) p.run
        rows) ∧
    (∀ past' st' p' rows', Run past' st' →
      ((approvals past').map AttendanceRecord.shift).Perm
          ((approvals past).map AttendanceRecord.shift) →
        TwoViews config caller input st' p' rows' →
          p'.run.totals = p.run.totals ∧
            p'.run.sourceRecordCount = p.run.sourceRecordCount ∧
              rows' = rows) ∧
    ∀ other, st.SameRows other →
      TwoViews config caller input other p rows := by
  refine ⟨views.showTotals, ?_, fun other => views.of_sameRows⟩
  intro past' st' p' rows' run' same views'
  refine views.eq_of_perm views' ?_
  exact ((run'.approved.map _).trans same).trans (run.approved.map _).symm

/-! ## Two shifts, in both orders -/

/-- The shift of an hour is approved, and then the one that is still on. -/
def approvingHour : Step :=
  officeStep clockingOpen.after "11" (.approveRecord "2")

def approvingOpen : Step :=
  officeStep approvingHour.after "12" (.approveRecord "10")

/-- The same shifts are recorded the other way round, under other ids, and so
are they approved. -/
def clockingOpenFirst : Step :=
  clocking hiring.after "2" none

def clockingHourSecond : Step :=
  clocking clockingOpenFirst.after "10" (some (.ofInstant ⟨3600000000000⟩))

def approvingOpenFirst : Step :=
  officeStep clockingHourSecond.after "11" (.approveRecord "2")

def approvingHourSecond : Step :=
  officeStep approvingOpenFirst.after "12" (.approveRecord "10")

theorem run_approvingOpen :
    Run [approvingOpen, approvingHour, clockingOpen, clockingHour, hiring]
      approvingOpen.after := by
  refine .step (.step run_clockingOpen ?_) ?_
  · exact ⟨by decide, rfl, rfl, rfl, rfl⟩
  · exact ⟨by decide, rfl, rfl, rfl, rfl⟩

theorem run_approvingHourSecond :
    Run [approvingHourSecond, approvingOpenFirst, clockingHourSecond,
      clockingOpenFirst, hiring] approvingHourSecond.after := by
  refine .step (.step (.step (.step (.step .start ?_) ?_) ?_) ?_) ?_
  · exact ⟨rfl, rfl, rfl, rfl, rfl⟩
  · exact ⟨by decide, rfl, rfl, rfl, rfl⟩
  · exact ⟨by decide, rfl, rfl, rfl, rfl⟩
  · exact ⟨by decide, rfl, rfl, rfl, rfl⟩
  · exact ⟨by decide, rfl, rfl, rfl, rfl⟩

/-- The first two hours of 1970, for everybody. -/
def firstHours : PreviewInput :=
  ⟨.ofInstant ⟨0⟩, .ofInstant ⟨7200000000000⟩, none, none, none⟩

theorem views_approvingOpen :
    ∃ p rows, TwoViews Config.standard approvingOpen.ctx.actor firstHours
        approvingOpen.after p rows ∧
      p.run.totals = ⟨0, 0, 0, 60⟩ ∧ p.run.sourceRecordCount = 2 :=
  ⟨_, _, ⟨⟨approvingOpen.ctx, .working, rfl, rfl, rfl⟩,
    approvingOpen.ctx, .working, none, rfl, rfl, rfl⟩, rfl, rfl⟩

theorem views_approvingHourSecond :
    ∃ p rows, TwoViews Config.standard approvingOpen.ctx.actor firstHours
      approvingHourSecond.after p rows :=
  ⟨_, _, ⟨approvingHourSecond.ctx, .working, rfl, rfl, rfl⟩,
    approvingHourSecond.ctx, .working, none, rfl, rfl, rfl⟩

/-- Of two approved shifts, one of an hour and one that is still on, the
aggregates show the hour and the preview counts both, in either order. -/
theorem totals_of_twoShifts :
    ∃ p rows p' rows',
      TwoViews Config.standard approvingOpen.ctx.actor firstHours
          approvingOpen.after p rows ∧
        TwoViews Config.standard approvingOpen.ctx.actor firstHours
          approvingHourSecond.after p' rows' ∧
        (rows.map AttendanceAggregate.totals).sum = ⟨0, 0, 0, 60⟩ ∧
        p'.run.totals = ⟨0, 0, 0, 60⟩ ∧ p'.run.sourceRecordCount = 2 ∧
          rows' = rows := by
  obtain ⟨p, rows, views, totals, count⟩ := views_approvingOpen
  obtain ⟨p', rows', views'⟩ := views_approvingHourSecond
  obtain ⟨⟨scope, _, shown⟩, orders, _⟩ :=
    preview_agrees_with_aggregates run_approvingOpen views
  have same : ((approvals [approvingHourSecond, approvingOpenFirst,
        clockingHourSecond, clockingOpenFirst, hiring]).map
          AttendanceRecord.shift).Perm
      ((approvals [approvingOpen, approvingHour, clockingOpen, clockingHour,
        hiring]).map AttendanceRecord.shift) := by
    decide
  obtain ⟨sameTotals, sameCount, sameRows⟩ :=
    orders _ _ _ _ run_approvingHourSecond same views'
  exact ⟨p, rows, p', rows', views, views', shown.totals.symm.trans totals,
    sameTotals.trans totals, sameCount.trans count, sameRows⟩

end Workforce
