import Workforce.Proofs.Attendance.Split
import Workforce.Proofs.Pay.NetPreview
import Workforce.Proofs.Pay.Totals
import Workforce.Proofs.Trail

/-!
# What payroll runs say fits together

A run is made by one of two previews, which share the pricing of the period,
and is changed only when it is confirmed.  This module shows of all runs that
are ever stored that

* their period has a length and their minutes are not negative;
* net pay is there exactly if deductions are, and is what these leave of gross
  pay;
* deductions name a profile with its version exactly if they were made by one;
* they bear the time and the author of a confirmation exactly if they are
  confirmed, and a confirmation changes nothing else.

It also shows that a preview of net pay has the gross figures of the preview
without deductions.

That a version is at least one is a law of the profiles; it is carried along
with that of the runs.
-/

namespace Workforce

open Service

/-! ## Minutes -/

namespace PayableMinutes

theorem Nonnegative.add {a b : PayableMinutes} (first : a.Nonnegative)
    (second : b.Nonnegative) : (a + b).Nonnegative where
  regular := Int.add_nonneg first.regular second.regular
  overtime := Int.add_nonneg first.overtime second.overtime
  night := Int.add_nonneg first.night second.night
  holiday := Int.add_nonneg first.holiday second.holiday

theorem nonnegative_sum {ms : List PayableMinutes}
    (each : ∀ m ∈ ms, m.Nonnegative) : ms.sum.Nonnegative :=
  List.sum_induction Nonnegative (fun _ _ => Nonnegative.add)
    ⟨le_rfl, le_rfl, le_rfl, le_rfl⟩ each

end PayableMinutes

theorem Store.paidMinutes_nonnegative (st : Store) (scope : TenantScope)
    (employee : Option String) (period : Period) :
    (st.paidMinutes scope employee period).Nonnegative := by
  apply PayableMinutes.nonnegative_sum
  intro m member
  obtain ⟨paid, listed, rfl⟩ := List.mem_map.1 member
  obtain ⟨shift, _, closed⟩ := List.mem_filterMap.1 listed
  obtain ⟨checkOut, _, rfl⟩ := Option.map_eq_some_iff.1 closed
  exact (exactMinutes_divides _ _ _ _).nonnegative

/-! ## What a run says -/

/-- Deductions that name a profile and its version exactly if they were made
by one. -/
structure DeductionSummary.NamesSource (s : DeductionSummary) : Prop where
  profile :
    s.mode = .profile ↔
      s.profileId.isSome = true ∧ s.profileVersion.isSome = true
  version : ∀ v, s.profileVersion = some v → 1 ≤ v

/-- A run whose parts fit together. -/
structure PayrollRun.Coherent (r : PayrollRun) : Prop where
  period : r.periodStart.instant < r.periodEnd.instant
  totals : r.totals.Nonnegative
  netPay : r.netPay = r.deductions.map fun s =>
    max minInt64 (min maxInt64 (r.grossPay - s.total))
  source : ∀ s, r.deductions = some s → s.NamesSource
  confirmed :
    r.state = .confirmed ↔
      r.confirmedAt.isSome = true ∧ r.confirmedBy.isSome = true

/-- All runs are coherent, and every profile was written at least once. -/
structure Store.PaysCoherently (st : Store) : Prop where
  runs : ∀ r ∈ st.payroll.rows, r.Coherent
  versions : ∀ p ∈ st.profiles.rows, 1 ≤ p.version

section Deeds

variable {ctx : Context} {st : Store} {scope : TenantScope}
  {input : PreviewInput} {priced : PricedPeriod}

/-- Deductions by a profile name it, and others name none. -/
theorem resolveDeductions_namesSource {grossPay : Int}
    {request : DeductionRequest} {profile : Option DeductionProfile}
    {s : DeductionSummary}
    (resolved : resolveDeductions grossPay request profile = .ok s)
    (versions : ∀ p, profile = some p → 1 ≤ p.version) : s.NamesSource := by
  cases request with
  | manual amounts =>
      simp only [resolveDeductions, ManualDeductions.resolve,
        Outcome.bind_eq_ok, Outcome.pure_eq_ok] at resolved
      obtain ⟨_, _, rfl⟩ := resolved
      exact ⟨by simp, by simp⟩
  | profile id expectedVersion =>
      simp only [resolveDeductions, Outcome.bind_eq_ok,
        Outcome.demand_eq_ok] at resolved
      obtain ⟨p, named, resolved⟩ := resolved
      have known := (Option.filter_eq_some_iff.1 named).1
      have priced := DeductionProfile.resolve_eq_ok resolved
      refine ⟨?_, ?_⟩
      · simp [priced.mode, priced.id, priced.version]
      · intro v version
        rw [priced.version] at version
        cases version
        exact versions p known

theorem toRun_coherent
    (price : pricePeriod ctx st scope input = .ok priced) :
    (priced.toRun ctx scope input).Coherent where
  period := (checks_of_pricePeriod price).period
  totals := by
    have same : (priced.toRun ctx scope input).totals = _ :=
      (pricePeriod_totals price).1
    rw [same]
    exact st.paidMinutes_nonnegative _ _ _
  netPay := rfl
  source := nofun
  confirmed := by simp [PricedPeriod.toRun]

theorem netRun_coherent {summary : DeductionSummary}
    (price : pricePeriod ctx st scope input = .ok priced)
    (source : summary.NamesSource) :
    (Call.netRun ctx scope input priced summary).Coherent where
  period := (toRun_coherent price).period
  totals := (toRun_coherent price).totals
  netPay := rfl
  source := by
    rintro s ⟨⟩
    exact source
  confirmed := (toRun_coherent price).confirmed

theorem confirmedRun_coherent {r : PayrollRun} (coherent : r.Coherent)
    (actor : String) (time : Instant) :
    (Store.confirmedRun r actor time).Coherent where
  period := coherent.period
  totals := coherent.totals
  netPay := coherent.netPay
  source := coherent.source
  confirmed := by simp [Store.confirmedRun]

theorem Store.PaysCoherently.drafted_version (sound : st.PaysCoherently)
    (d : Store.ProfileDraft) (now : Instant) :
    1 ≤ (st.drafted d now).version := by
  unfold Store.drafted
  split
  · rename_i p found
    have before := sound.versions p (Table.mem_of_get? found)
    have next : (d.revise p now).version = p.version + 1 := rfl
    omega
  · exact le_rfl

namespace Store.PaysCoherently

theorem write_run (sound : st.PaysCoherently) {r : PayrollRun}
    (coherent : r.Coherent) :
    (st.write { run := some r }).PaysCoherently where
  runs := by
    apply Table.forall_mem_putAny sound.runs
    rintro _ ⟨⟩
    exact coherent
  versions := sound.versions

theorem write_profile (sound : st.PaysCoherently) {p : DeductionProfile}
    (version : 1 ≤ p.version) :
    (st.write { profile := some p }).PaysCoherently where
  runs := sound.runs
  versions := by
    apply Table.forall_mem_putAny sound.versions
    rintro _ ⟨⟩
    exact version

theorem write_silent (sound : st.PaysCoherently) {w : Write}
    (run : w.run = none) (profile : w.profile = none) :
    (st.write w).PaysCoherently where
  runs := by
    rw [Store.write, run]
    exact sound.runs
  versions := by
    rw [Store.write, profile]
    exact sound.versions

end Store.PaysCoherently

theorem Call.Does.paysCoherently {actor : Actor} {c : Call} {w : Write}
    {notice : Notice} {reply : Reply}
    (does : c.Does ctx st actor scope w notice reply)
    (sound : st.PaysCoherently) : (st.write w).PaysCoherently := by
  cases does with
  | previewPayroll permitted price =>
      exact sound.write_run (toRun_coherent price)
  | previewPayrollWithDeductions permitted enabled profiles price
      resolved =>
      apply sound.write_run
      refine netRun_coherent price
        (resolveDeductions_namesSource resolved ?_)
      intro p seen
      obtain ⟨id, _, found⟩ :=
        Option.bind_eq_some_iff.1 (Option.filter_eq_some_iff.1 seen).1
      exact sound.versions p (Table.mem_of_get? found)
  | confirmRun permitted found visible previewed =>
      have before := sound.runs _ (Table.mem_of_get? found)
      exact sound.write_run (confirmedRun_coherent before actor.id ctx.now)
  | @upsertProfile id input p _ permitted valid within made =>
      apply sound.write_profile
      rw [made]
      exact sound.drafted_version (input.toDraft id scope) ctx.now
  | _ =>
      exact sound.write_silent rfl rfl

end Deeds

theorem Reachable.paysCoherently {st : Store} (reachable : Reachable st) :
    st.PaysCoherently := by
  refine reachable.invariant (P := Store.PaysCoherently) ?_ ?_ ?_
  · exact ⟨fun r member => absurd member List.not_mem_nil,
      fun p member => absurd member List.not_mem_nil⟩
  · intro st audit events sound
    exact ⟨sound.runs, sound.versions⟩
  · intro ctx st actor scope c w notice reply sound _ does
    exact does.paysCoherently sound

/-! ## Confirmations -/

/-- A step that leaves all tables as they are and fails, or makes of the run
of an id, which was previewed, one that was confirmed by the caller at the
time of the call, and is else as it was. -/
def Step.ConfirmsOnly (s : Step) (id : String) : Prop :=
  (s.succeeds = false ∧ s.after.entities = s.before.entities) ∨
    ∃ actor r,
      s.ctx.actor = some actor ∧ s.before.payroll.get? id = some r ∧
        r.state = .previewed ∧
          s.after.entities =
            { s.before with
              payroll := s.before.payroll.put
                { r with
                  state := .confirmed
                  confirmedAt := some s.ctx.now
                  confirmedBy := some actor.id
                  updatedAt := s.ctx.now } }.entities

theorem Step.confirmsOnly {s : Step} {id : String}
    (call : s.call = .confirmRun id) : s.ConfirmsOnly id := by
  have entities := s.after_entities
  have fails := @succeeds_of_error s
  have comes := Call.effect_comes s.ctx s.before s.call
  generalize s.call.effect s.ctx s.before = effect at entities fails comes
  rw [call] at comes
  cases comes with
  | failed failure =>
      exact Or.inl ⟨fails rfl, entities⟩
  | looked reply only =>
      cases only
  | warned authorized other conflict silent =>
      cases other
  | halted authorized other does beyond =>
      cases other
  | done authorized does =>
      cases does with
      | @confirmRun _ r _ permitted found visible previewed =>
          have called := (Context.authorize_eq_ok.1 authorized).1
          rw [Effect.told, ← Store.insertRun_eq_write] at entities
          exact Or.inr ⟨_, r, called, found, previewed, entities⟩

/-! ## Both previews -/

/-- Two previews with the same gross figures. -/
structure PayrollPreview.SameGross (p q : PayrollPreview) : Prop where
  totals : p.run.totals = q.run.totals
  breakdown : p.breakdown = q.breakdown
  grossPay : p.run.grossPay = q.run.grossPay
  hourlyRate : p.hourlyRate = q.hourlyRate
  multipliers : p.multipliers = q.multipliers
  sourceRecordCount : p.run.sourceRecordCount = q.run.sourceRecordCount

/-- What is published gets through only if both sinks are in order. -/
theorem Effect.working_of_delivery {n : Notice} {sinks : Sinks} {u : Unit}
    (published : n.event.isSome = true)
    (delivered : delivery n sinks = .ok u) : sinks = .working := by
  obtain ⟨event, told⟩ := Option.isSome_iff_exists.1 published
  obtain ⟨audit, events⟩ := sinks
  cases audit with
  | some message =>
      cases delivered
  | none =>
      cases events with
      | some message =>
          rw [delivery, told] at delivered
          cases delivered
      | none =>
          rfl

section Previews

variable {ctx other : Context} {st : Store} {input : PreviewInput}
  {request : DeductionRequest}

/-- Nothing of what a preview prices or permits is in the clock or the ids. -/
theorem effect_previewPayroll_of_price {actor : Actor} {scope : TenantScope}
    {priced : PricedPeriod} (config : other.config = ctx.config)
    (called : other.actor = ctx.actor)
    (authorized : ctx.authorize = .ok (actor, scope))
    (permitted : actor.may .runPreview = true)
    (price : pricePeriod ctx st scope input = .ok priced) :
    ∃ payload,
      (Call.previewPayroll input).effect other st =
        .told (st.insertRun (priced.toRun other scope input))
          (runNotice other actor .payrollCalculated
            (priced.toRun other scope input) payload)
          (.preview (priced.toPreview (priced.toRun other scope input))) := by
  have sameAuthority : other.authorize = .ok (actor, scope) := by
    rw [← authorized, Context.authorize, Context.authorize, config, called]
  have samePrice : pricePeriod other st scope input = .ok priced := by
    rw [← price, pricePeriod, pricePeriod, config]
  have heard : requirePreviewer actor = .ok () :=
    Actor.require_eq_ok.2 permitted
  simp only [Call.effect, Service.previewPayroll, sameAuthority, heard,
    samePrice, Outcome.ok_bind]
  exact ⟨_, rfl⟩

/-- Where a preview of net pay goes through, so does the one without
deductions, at any time and under any id, and comes to the same gross
figures. -/
theorem previewPayroll_of_netPreview {sinks : Sinks} {net : PayrollPreview}
    (config : other.config = ctx.config) (called : other.actor = ctx.actor)
    (shown : ((Call.previewPayrollWithDeductions input request).perform ctx
      sinks st).1 = .ok (.preview net)) :
    ∃ gross,
      ((Call.previewPayroll input).perform other sinks st).1 =
          .ok (.preview gross) ∧
        net.SameGross gross := by
  have answered := Effect.record_reply
    ((Call.previewPayrollWithDeductions input request).effect ctx st) sinks
  have comes := Call.effect_comes ctx st
    (.previewPayrollWithDeductions input request)
  rw [Call.perform] at shown
  rw [shown] at answered
  generalize (Call.previewPayrollWithDeductions input request).effect ctx st =
    e at answered comes
  cases comes with
  | failed failure =>
      cases answered
  | looked reply only =>
      cases only
  | warned authorized call conflict silent =>
      cases Effect.reply_of_answered answered.symm
  | halted authorized call does beyond =>
      cases call
  | @done actor scope _ _ _ authorized does =>
      cases does with
      | @previewPayrollWithDeductions _ _ priced _ told permitted enabled
          profiles price resolved =>
          obtain ⟨u, delivered, same⟩ := Outcome.bind_eq_ok.1 answered.symm
          cases same
          obtain ⟨payload, effect⟩ := effect_previewPayroll_of_price config
            called authorized permitted price
          refine ⟨priced.toPreview (priced.toRun other scope input), ?_,
            rfl, rfl, rfl, rfl, rfl, rfl⟩
          rw [Effect.working_of_delivery rfl delivered, Call.perform, effect,
            Effect.record_working]
          rfl

end Previews

/-! ## After any run -/

/-- Payroll after any run of the system.  All stored runs are coherent, a
confirmation changes nothing of a run but what it says of its confirmation,
and a preview of net pay that goes through has the gross figures of the preview
without deductions. -/
theorem payroll_of_reachable {st : Store} (reachable : Reachable st) :
    (∀ r ∈ st.payroll.rows, r.Coherent) ∧
      (∀ s : Step, s.before = st → ∀ id, s.call = .confirmRun id →
        s.ConfirmsOnly id) ∧
      ∀ (ctx other : Context) (sinks : Sinks) (input : PreviewInput)
        (request : DeductionRequest) (net : PayrollPreview),
        other.config = ctx.config → other.actor = ctx.actor →
        ((Call.previewPayrollWithDeductions input request).perform ctx sinks
          st).1 = .ok (.preview net) →
        ∃ gross,
          ((Call.previewPayroll input).perform other sinks st).1 =
              .ok (.preview gross) ∧
            net.SameGross gross := by
  refine ⟨reachable.paysCoherently.runs, ?_, ?_⟩
  · intro s _ id call
    exact Step.confirmsOnly call
  · intro ctx other sinks input request net config called shown
    exact previewPayroll_of_netPreview config called shown

/-- A day without work is priced, with a fixed deduction by the profile. -/
def pricing : Step :=
  tenantStep revising.after "org-a" (netPreview wholeDay "std" 2)

/-- The run is confirmed. -/
def confirming : Step :=
  let step := tenantStep pricing.after "org-a" (.confirmRun "1")
  { step with ctx := { step.ctx with fresh := fun _ => "2" } }

theorem run_confirming :
    Run (confirming :: pricing :: tenantRun) confirming.after := by
  refine .step (.step run_tenantRun ?_) ?_
  · exact ⟨rfl, rfl, rfl, rfl, rfl⟩
  · exact ⟨rfl, rfl, rfl, by decide, rfl⟩

/-- The run is below zero by the deduction, and it is confirmed once: who asks
again is refused, and nothing is changed.  Without the deduction the day has
the same gross figures. -/
theorem payroll_of_confirming :
    (confirming.after.payroll.get? "1").map
        (fun r => (r.grossPay, r.netPay, r.state)) =
      some (0, some (-1000), .confirmed) ∧
    (∀ r ∈ confirming.after.payroll.rows, r.Coherent) ∧
    { confirming with before := confirming.after }.ConfirmsOnly "1" ∧
    ∃ net gross,
      ((netPreview wholeDay "std" 2).perform pricing.ctx .working
          confirming.after).1 = .ok (.preview net) ∧
        ((Call.previewPayroll wholeDay).perform confirming.ctx .working
            confirming.after).1 = .ok (.preview gross) ∧
          net.SameGross gross := by
  obtain ⟨coherent, confirms, previews⟩ :=
    payroll_of_reachable ⟨_, run_confirming⟩
  obtain ⟨net, shown⟩ : ∃ net, ((netPreview wholeDay "std" 2).perform
      pricing.ctx .working confirming.after).1 = .ok (.preview net) :=
    ⟨_, rfl⟩
  obtain ⟨gross, sameDay, alike⟩ := previews pricing.ctx confirming.ctx
    .working wholeDay _ net rfl rfl shown
  exact ⟨by decide, coherent, confirms _ rfl "1" rfl, net, gross, shown,
    sameDay, alike⟩

end Workforce
