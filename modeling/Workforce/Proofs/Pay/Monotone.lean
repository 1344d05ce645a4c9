import Workforce.Proofs.Pay.Overflow

/-!
# More minutes are never paid less

A shift that is approved adds minutes to those that are paid, and may be the
first on a holiday.  Then all overtime is paid along with the holiday, by
another factor.  This module shows that pay does not fall by it, nor by minutes
of any other kind, as long as no factor is below one.

* Exactly, each further minute adds at least what it comes to at the plain rate
  (`exactGross_grows`).  A factor of at least one is all that this takes, also
  where the factor itself changes.
* As it is computed, pay is off by much less than half of that
  (`grossPay_near`), within bounds that are far from every real payroll.  So
  the computed sums are in the order of the exact ones, and rounding keeps it.
* An approval only adds to the records that count, in whatever store
  (`Step.counted_of_approval`).
-/

namespace Workforce

open Service

/-! ## Rounding keeps the order -/

theorem roundAway_mono {x y : ℚ} (order : x ≤ y) :
    roundAway x ≤ roundAway y := by
  unfold roundAway
  split
  · split
    · have floors : ⌊-y + 1 / 2⌋ ≤ ⌊-x + 1 / 2⌋ :=
        Int.floor_le_floor (by linarith)
      omega
    · have below : 0 ≤ ⌊-x + 1 / 2⌋ := Int.floor_nonneg.2 (by linarith)
      have above : 0 ≤ ⌊y + 1 / 2⌋ := Int.floor_nonneg.2 (by linarith)
      omega
  · rw [if_neg (by linarith)]
    exact Int.floor_le_floor (by linarith)

theorem roundWon_mono {d e : Decimal} (order : d.value ≤ e.value) :
    roundWon d ≤ roundWon e := by
  have rounded := roundAway_mono order
  rw [roundWon, roundWon, Decimal.roundHalfAway_eq, Decimal.roundHalfAway_eq]
  unfold saturate
  omega

/-! ## More minutes -/

namespace PayableMinutes

/-- Of no kind there are more minutes in `a` than in `b`. -/
structure AtMost (a b : PayableMinutes) : Prop where
  regular : a.regular ≤ b.regular
  overtime : a.overtime ≤ b.overtime
  night : a.night ≤ b.night
  holiday : a.holiday ≤ b.holiday

variable {a b c : PayableMinutes}

theorem AtMost.trans (first : a.AtMost b) (second : b.AtMost c) :
    a.AtMost c where
  regular := first.regular.trans second.regular
  overtime := first.overtime.trans second.overtime
  night := first.night.trans second.night
  holiday := first.holiday.trans second.holiday

theorem Nonnegative.of_atMost (nonnegative : a.Nonnegative)
    (more : a.AtMost b) : b.Nonnegative where
  regular := nonnegative.regular.trans more.regular
  overtime := nonnegative.overtime.trans more.overtime
  night := nonnegative.night.trans more.night
  holiday := nonnegative.holiday.trans more.holiday

theorem atMost_add (nonnegative : b.Nonnegative) : a.AtMost (b + a) where
  regular := Int.le_add_of_nonneg_left nonnegative.regular
  overtime := Int.le_add_of_nonneg_left nonnegative.overtime
  night := Int.le_add_of_nonneg_left nonnegative.night
  holiday := Int.le_add_of_nonneg_left nonnegative.holiday

/-- If there are not more of any kind then there are more in all, or the same
of each. -/
theorem AtMost.eq_or_total_lt (more : a.AtMost b) :
    a = b ∨ a.total < b.total := by
  obtain ⟨regular, overtime, night, holiday⟩ := more
  by_cases same : a = b
  · exact .inl same
  · right
    rw [PayableMinutes.ext_iff] at same
    unfold total
    omega

end PayableMinutes

/-! ## The exact sum -/

/-- Factors of at least one, and of at most a hundred. -/
structure Multipliers.Moderate (m : Multipliers) : Prop where
  regular : 1 ≤ m.regular.value ∧ m.regular.value ≤ 100
  overtime : 1 ≤ m.overtime.value ∧ m.overtime.value ≤ 100
  night : 1 ≤ m.night.value ∧ m.night.value ≤ 100
  holiday : 1 ≤ m.holiday.value ∧ m.holiday.value ≤ 100

/-- The factor of overtime, on a holiday or not. -/
def Multipliers.overtimeBy (m : Multipliers) (onHoliday : Prop)
    [Decidable onHoliday] : ℚ :=
  if onHoliday then m.holidayOvertime else m.overtime.value

section ExactGrowth

variable {minutes more : PayableMinutes} {hourlyRate : Int} {m : Multipliers}

/-- Minutes of one kind that are added are paid at the plain rate at least. -/
theorem exactPay_grows {time longer : Int} {factor : ℚ}
    (rate : 0 ≤ hourlyRate) (grows : time ≤ longer) (least : 1 ≤ factor) :
    exactPay time hourlyRate factor + exactPay (longer - time) hourlyRate 1 ≤
      exactPay longer hourlyRate factor := by
  have added := exactPay_mono rate (Int.sub_nonneg.2 grows) le_rfl zero_le_one
    least
  have whole : exactPay longer hourlyRate factor =
      exactPay time hourlyRate factor +
        exactPay (longer - time) hourlyRate factor := by
    unfold exactPay
    push_cast
    ring
  linarith

/-- All overtime is paid by one factor, on a holiday or not. -/
theorem exactPay_overtime (minutes : PayableMinutes) (hourlyRate : Int)
    (m : Multipliers) :
    exactPay minutes.plainOvertime hourlyRate m.overtime.value +
        exactPay minutes.holidayOvertime hourlyRate m.holidayOvertime =
      exactPay minutes.overtime hourlyRate
        (m.overtimeBy (0 < minutes.holiday)) := by
  unfold PayableMinutes.plainOvertime PayableMinutes.holidayOvertime
    Multipliers.overtimeBy
  by_cases onHoliday : 0 < minutes.holiday
  · simp [onHoliday, exactPay]
  · simp [onHoliday, exactPay]

theorem Multipliers.Moderate.valid (moderate : m.Moderate) :
    m.validate = .ok () := by
  have positive : ∀ d : Decimal, 1 ≤ d.value → d.isPositive = true := by
    intro d least
    rw [Decimal.isPositive, decide_eq_true_iff, ← not_le]
    intro below
    have sign : d.value ≤ 0 :=
      div_nonpos_of_nonpos_of_nonneg (by exact_mod_cast below) (by positivity)
    linarith
  obtain ⟨⟨regular, _⟩, ⟨overtime, _⟩, ⟨night, _⟩, ⟨holiday, _⟩⟩ := moderate
  refine Outcome.ensure_of ?_
  simp [arePositive, positive _ regular, positive _ overtime,
    positive _ night, positive _ holiday]

/-- The factor of overtime only rises when there is a holiday. -/
theorem Multipliers.Moderate.overtimeBy_mono (moderate : m.Moderate)
    (longer : minutes.holiday ≤ more.holiday) :
    1 ≤ m.overtimeBy (0 < minutes.holiday) ∧
      m.overtimeBy (0 < minutes.holiday) ≤
        m.overtimeBy (0 < more.holiday) := by
  have least := moderate.overtime.1
  have both : m.overtime.value ≤ m.holidayOvertime :=
    le_mul_of_one_le_left (by linarith) moderate.holiday.1
  unfold overtimeBy
  by_cases before : 0 < minutes.holiday
  · have after : 0 < more.holiday := lt_of_lt_of_le before longer
    rw [if_pos before, if_pos after]
    exact ⟨by linarith, le_rfl⟩
  · rw [if_neg before]
    refine ⟨least, ?_⟩
    split
    · exact both
    · exact le_rfl

/-- Night minutes that are added are paid at the plain rate at least, those up
to the limit by one factor and the others by another. -/
theorem exactNight_grows (moderate : m.Moderate) (rate : 0 ≤ hourlyRate)
    (longer : minutes.night ≤ more.night) :
    exactNight minutes hourlyRate m +
        exactPay (more.night - minutes.night) hourlyRate 1 ≤
      exactNight more hourlyRate m := by
  have early : minutes.earlyNight ≤ more.earlyNight :=
    min_le_min_right _ longer
  have late : minutes.lateNight ≤ more.lateNight :=
    max_le_max_right _ (Int.sub_le_sub_right longer _)
  have least : 1 ≤ m.lateNight := by
    have night := moderate.night.1
    have overtime := moderate.overtime.1
    rw [Multipliers.lateNight]
    linarith
  have added : more.night - minutes.night =
      (more.earlyNight - minutes.earlyNight) +
        (more.lateNight - minutes.lateNight) := by
    unfold PayableMinutes.earlyNight PayableMinutes.lateNight
    omega
  have parts : exactPay (more.night - minutes.night) hourlyRate 1 =
      exactPay (more.earlyNight - minutes.earlyNight) hourlyRate 1 +
        exactPay (more.lateNight - minutes.lateNight) hourlyRate 1 := by
    rw [added]
    unfold exactPay
    push_cast
    ring
  have first := exactPay_grows rate early moderate.night.1
  have second := exactPay_grows rate late least
  unfold exactNight
  linarith

/-- Minutes that are added are paid at the plain rate at least. -/
theorem exactGross_grows (moderate : m.Moderate) (rate : 0 ≤ hourlyRate)
    (nonnegative : minutes.Nonnegative) (longer : minutes.AtMost more) :
    exactGross minutes hourlyRate m +
        exactPay (more.total - minutes.total) hourlyRate 1 ≤
      exactGross more hourlyRate m := by
  have regular := exactPay_grows rate longer.regular moderate.regular.1
  have holiday := exactPay_grows rate longer.holiday moderate.holiday.1
  have night := exactNight_grows moderate rate longer.night
  obtain ⟨least, rises⟩ := moderate.overtimeBy_mono longer.holiday
  have overtime := exactPay_grows rate longer.overtime least
  have raised := exactPay_mono rate
    (nonnegative.overtime.trans longer.overtime) le_rfl
    (zero_le_one.trans least) rises
  have before := exactPay_overtime minutes hourlyRate m
  have after := exactPay_overtime more hourlyRate m
  have parts : exactPay (more.total - minutes.total) hourlyRate 1 =
      exactPay (more.regular - minutes.regular) hourlyRate 1 +
        exactPay (more.overtime - minutes.overtime) hourlyRate 1 +
        exactPay (more.night - minutes.night) hourlyRate 1 +
        exactPay (more.holiday - minutes.holiday) hourlyRate 1 := by
    unfold PayableMinutes.total exactPay
    push_cast
    ring
  unfold exactGross exactPlain exactHoliday
  linarith

end ExactGrowth

/-! ## Pay as it is computed -/

/-- The most minutes that are compared: a thousand million of each kind. -/
def manyMinutes : PayableMinutes := ⟨10 ^ 9, 10 ^ 9, 10 ^ 9, 10 ^ 9⟩

section Computed

variable {minutes more : PayableMinutes} {hourlyRate : Int} {m : Multipliers}

/-- Twice this is above all factors. -/
theorem Multipliers.Moderate.below (moderate : m.Moderate) :
    m.Below 5001 := by
  obtain ⟨⟨_, regular⟩, ⟨overtimeLeast, overtime⟩, ⟨_, night⟩,
    ⟨holidayLeast, holiday⟩⟩ := moderate
  have both : m.holiday.value * m.overtime.value ≤ 100 * 100 :=
    mul_le_mul holiday overtime (by linarith) (by norm_num)
  refine ⟨?_, ?_, ?_, ?_⟩
  · linarith
  · linarith
  · linarith
  · rw [Multipliers.holidayOvertime]
    linarith

theorem total_le_of_manyMinutes (bounded : minutes.AtMost manyMinutes) :
    minutes.total ≤ 4 * 10 ^ 9 := by
  obtain ⟨regular, overtime, night, holiday⟩ := bounded
  simp only [manyMinutes] at regular overtime night holiday
  unfold PayableMinutes.total
  omega

/-- Within the bounds, minutes are far from overflowing. -/
theorem payWithin_of_moderate (moderate : m.Moderate)
    (rate : 0 < hourlyRate) (bounded : hourlyRate ≤ 10 ^ 9)
    (nonnegative : minutes.Nonnegative) (few : minutes.AtMost manyMinutes) :
    PayWithin (79 * 10 ^ 27) minutes hourlyRate m := by
  have small := moderate.below
  have least : (0 : ℚ) < hourlyRate := by
    exact_mod_cast rate
  have most : (hourlyRate : ℚ) ≤ 10 ^ 9 := by
    exact_mod_cast bounded
  have bucket : ∀ b ∈ minutes.paidAt m,
      0 ≤ (b.1 * hourlyRate : ℚ) ∧
        (b.1 * hourlyRate : ℚ) ≤ 4 * 10 ^ 9 * 10 ^ 9 := by
    rintro ⟨time, factor⟩ paid
    obtain ⟨above, below⟩ := minutes_of_paidAt nonnegative paid
    have above : (0 : ℚ) ≤ time := by
      exact_mod_cast above
    have below : (time : ℚ) ≤ 4 * 10 ^ 9 := by
      exact_mod_cast below.trans (total_le_of_manyMinutes few)
    exact ⟨mul_nonneg above least.le,
      mul_le_mul below most least.le (by norm_num)⟩
  refine ⟨by linarith, ?_, ?_, ?_, ?_⟩
  · linarith [small.night]
  · linarith [small.holidayOvertime]
  · intro b paid
    linarith [(bucket b paid).2]
  · intro b paid
    obtain ⟨above, below⟩ := bucket b paid
    have factor := factor_of_paidAt moderate.valid small paid
    rw [abs_mul, abs_of_nonneg above]
    calc b.1 * hourlyRate * |b.2|
        ≤ 4 * 10 ^ 9 * 10 ^ 9 * 10002 := by
          gcongr
          linarith
      _ ≤ 79 * 10 ^ 27 := by
          norm_num

/-- Within the bounds, pay is computed from a sum that is off by less than half
of what a minute comes to. -/
theorem grossPay_near (moderate : m.Moderate) (rate : 0 < hourlyRate)
    (bounded : hourlyRate ≤ 10 ^ 9) (nonnegative : minutes.Nonnegative)
    (few : minutes.AtMost manyMinutes) :
    ∃ b sum, grossBreakdown minutes hourlyRate m = .ok b ∧
      b.grossPay = roundWon sum ∧
        |sum.value - exactGross minutes hourlyRate m| ≤ 1 / 120 := by
  obtain ⟨b, priced⟩ := grossBreakdown_of_within nonnegative rate
    moderate.valid (payWithin_of_moderate moderate rate bounded nonnegative few)
  obtain ⟨sum, rounded, computes⟩ := gross_computes_of_below nonnegative rate
    moderate.valid moderate.below priced
  refine ⟨b, sum, priced, rounded, le_trans computes.near ?_⟩
  have size : exactPay minutes.total hourlyRate 5001 ≤
      4 * 10 ^ 9 * 10 ^ 9 * 5001 / 60 := by
    have time : (minutes.total : ℚ) ≤ 4 * 10 ^ 9 := by
      exact_mod_cast total_le_of_manyMinutes few
    have least : (0 : ℚ) ≤ hourlyRate := by
      exact_mod_cast rate.le
    have most : (hourlyRate : ℚ) ≤ 10 ^ 9 := by
      exact_mod_cast bounded
    unfold exactPay
    gcongr
  unfold Decimal.precision
  linarith

/-- Within the bounds, more minutes are not paid less. -/
theorem grossPay_mono (moderate : m.Moderate) (rate : 0 < hourlyRate)
    (bounded : hourlyRate ≤ 10 ^ 9) (nonnegative : minutes.Nonnegative)
    (longer : minutes.AtMost more) (few : more.AtMost manyMinutes) :
    ∃ b b', grossBreakdown minutes hourlyRate m = .ok b ∧
      grossBreakdown more hourlyRate m = .ok b' ∧
        b.grossPay ≤ b'.grossPay := by
  obtain ⟨b, sum, priced, rounded, near⟩ := grossPay_near moderate rate
    bounded nonnegative (longer.trans few)
  obtain ⟨b', sum', priced', rounded', near'⟩ := grossPay_near moderate rate
    bounded (nonnegative.of_atMost longer) few
  refine ⟨b, b', priced, priced', ?_⟩
  rcases longer.eq_or_total_lt with rfl | added
  · rw [priced] at priced'
    cases priced'
    exact le_rfl
  · have grows := exactGross_grows moderate rate.le nonnegative longer
    -- A minute at a rate of one is twice what either sum is off by.
    have minute : 1 / 60 ≤
        exactPay (more.total - minutes.total) hourlyRate 1 := by
      have product : (1 : ℚ) ≤
          ((more.total - minutes.total : Int) : ℚ) * hourlyRate := by
        have time : 1 ≤ more.total - minutes.total := by
          omega
        exact_mod_cast one_le_mul_of_one_le_of_one_le time rate
      unfold exactPay
      linarith
    rw [rounded, rounded']
    apply roundWon_mono
    have lower := abs_le.1 near
    have upper := abs_le.1 near'
    linarith

end Computed

/-! ## One more approval -/

section Approval

variable {s : Step} {id : String}

/-- An approval changes no table, or it puts a record that was pending back in
its place as approved. -/
theorem Step.after_of_approval (call : s.call = .approveRecord id) :
    (∃ audit events,
      s.after = { s.before with audit := audit, events := events }) ∨
    ∃ existing actor audit events,
      s.before.attendance.get? id = some existing ∧
        existing.state = .pending ∧
          s.after =
            { s.before.insertRecord (existing.approve actor s.ctx.now) with
              audit := audit
              events := events } := by
  rcases s.after_cases with ⟨_, audit, events, left⟩ |
    ⟨actor, scope, w, notice, reply, audit, events, _, does, left⟩
  · exact .inl ⟨audit, events, left⟩
  · rw [call] at does
    cases does with
    | approveRecord permitted found visible pending =>
        rw [← Store.insertRecord_eq_write] at left
        exact .inr ⟨_, actor, audit, events, found, pending, left⟩

/-- Nobody is hired or let go by an approval. -/
theorem Step.employees_of_approval (call : s.call = .approveRecord id) :
    s.after.employees = s.before.employees := by
  rcases Step.after_of_approval call with ⟨_, _, left⟩ |
    ⟨_, _, _, _, _, _, left⟩
  · rw [left]
  · rw [left]
    rfl

/-- All records that count before an approval count after it, in whatever
store. -/
theorem Step.counted_of_approval (call : s.call = .approveRecord id)
    {scope : TenantScope} {employee : Option String} {period : Period} :
    s.before.counted scope employee period ⊆
      s.after.counted scope employee period := by
  intro r counts
  obtain ⟨kept, counts⟩ := Finset.mem_filter.1 counts
  refine Finset.mem_filter.2 ⟨?_, counts⟩
  rw [List.mem_toFinset] at kept ⊢
  rcases Step.after_of_approval call with ⟨_, _, left⟩ |
    ⟨existing, actor, _, _, found, pending, left⟩
  · rw [left]
    exact kept
  · rw [left]
    refine Table.mem_rows_put.2 (.inr ⟨kept, ?_⟩)
    -- What is replaced is pending, so it is not the record that counts.
    intro same
    have replaced : r = existing := by
      refine Table.eq_of_key kept (Table.mem_of_get? found) ?_
      exact same
    have approved := counts.approved
    rw [replaced, pending] at approved
    cases approved

theorem AttendanceRecord.minutes_nonnegative (r : AttendanceRecord) :
    r.minutes.Nonnegative := by
  unfold minutes
  split
  · exact (exactMinutes_divides _ _ _ _).nonnegative
  · exact ⟨le_rfl, le_rfl, le_rfl, le_rfl⟩

/-- Where more records count there are not fewer minutes to be paid. -/
theorem payable_of_counted {st other : Store} {scope : TenantScope}
    {input : PreviewInput}
    (counted : st.counted scope input.employee input.period ⊆
      other.counted scope input.employee input.period) :
    (st.payable scope input).AtMost (other.payable scope input) := by
  have closed := Finset.filter_subset_filter (¬ ·.IsOpen) counted
  rw [Store.payable, Store.payable, paidMinutes_listApproved,
    paidMinutes_listApproved, ← Finset.sum_sdiff closed]
  apply PayableMinutes.atMost_add
  refine Finset.sum_induction _ PayableMinutes.Nonnegative
    (fun _ _ => PayableMinutes.Nonnegative.add) ⟨le_rfl, le_rfl, le_rfl, le_rfl⟩
    ?_
  intro r _
  exact r.minutes_nonnegative

end Approval

/-! ## What previews show -/

/-- Asked by a caller, the store shows a preview with a gross pay, with
deductions or without, at some time and under some id. -/
def Store.ShowsGross (st : Store) (config : Config) (caller : Option Actor)
    (input : PreviewInput) (grossPay : Int) : Prop :=
  ∃ ctx sinks c p, ctx.config = config ∧ ctx.actor = caller ∧
    Call.PreviewsFor input c ∧
      (c.perform ctx sinks st).1 = .ok (.preview p) ∧
        p.run.grossPay = grossPay

section Shown

variable {ctx : Context} {st : Store} {scope : TenantScope}
  {input : PreviewInput}

/-- A caller is shown a gross pay exactly if they may preview payroll and it is
what the minutes in their scope come to. -/
theorem Store.showsGross_iff {config : Config} {caller : Option Actor}
    {grossPay : Int} :
    st.ShowsGross config caller input grossPay ↔
      ∃ actor scope, caller = some actor ∧
        TenantScope.resolve caller config.features.tenancy = .ok scope ∧
          actor.may .runPreview = true ∧
            PriceChecks config st scope input ∧
              ∃ b, st.priceFor config scope input = .ok b ∧
                b.grossPay = grossPay := by
  constructor
  · rintro ⟨ctx, sinks, c, p, rfl, rfl, previews, shown, rfl⟩
    obtain ⟨sinks, gross, shown, same⟩ : ∃ sinks gross,
        ((Call.previewPayroll input).perform ctx sinks st).1 =
            .ok (.preview gross) ∧
          gross.run.grossPay = p.run.grossPay := by
      cases previews with
      | gross =>
          exact ⟨sinks, p, shown, rfl⟩
      | net request =>
          obtain ⟨gross, plain, alike⟩ :=
            @previewPayroll_of_netPreview ctx ctx st input request sinks p
              rfl rfl shown
          exact ⟨sinks, gross, plain, alike.grossPay.symm⟩
    obtain ⟨actor, scope, priced, authorized, permitted, price, run⟩ :=
      previewPayroll_eq_ok shown
    obtain ⟨called, resolved⟩ := Context.authorize_eq_ok.1 authorized
    obtain ⟨checks, b, paid, rfl⟩ := pricePeriod_eq_ok.1 price
    refine ⟨actor, scope, called, resolved, permitted, checks, b, paid, ?_⟩
    rw [← same, run]
    rfl
  · rintro ⟨actor, scope, called, resolved, permitted, checks, b, paid, rfl⟩
    let ctx : Context :=
      { config, actor := caller, now := ⟨0⟩, fresh := fun _ => "" }
    let priced := st.pricedAt config scope input b
    have price : pricePeriod ctx st scope input = .ok priced :=
      pricePeriod_eq_ok.2 ⟨checks, b, paid, rfl⟩
    obtain ⟨payload, effect⟩ := @effect_previewPayroll_of_price ctx ctx st
      input actor scope priced rfl rfl
      (Context.authorize_eq_ok.2 ⟨called, resolved⟩) permitted price
    refine ⟨ctx, .working, .previewPayroll input,
      priced.toPreview (priced.toRun ctx scope input), rfl, rfl, .gross, ?_,
      rfl⟩
    rw [Call.perform, effect, Effect.record_working]
    rfl

/-- What a preview checks of the store is not changed by an approval. -/
theorem PriceChecks.of_approval {config : Config} {s : Step} {id : String}
    (checks : PriceChecks config s.before scope input)
    (call : s.call = .approveRecord id) :
    PriceChecks config s.after scope input := by
  refine { checks with employee := ?_ }
  intro asked given
  rw [requireEmployee, Step.employees_of_approval call]
  exact checks.employee asked given

/-- An approval leaves a preview that was shown, within the bounds, if all
records that count can be divided then, and does not lower its gross pay. -/
theorem Store.ShowsGross.of_approval {s : Step} {id : String} {config : Config}
    {caller : Option Actor} {grossPay : Int}
    (shown : s.before.ShowsGross config caller input grossPay)
    (call : s.call = .approveRecord id)
    (resolved : TenantScope.resolve caller config.features.tenancy = .ok scope)
    (moderate : (input.factorsBy config).Moderate)
    (rate : 0 < input.rateBy config)
    (bounded : input.rateBy config ≤ 10 ^ 9)
    (few : (s.after.payable scope input).AtMost manyMinutes) :
    ((∃ more, s.after.ShowsGross config caller input more) ↔
        s.after.Splittable scope input.employee input.period) ∧
      ∀ more, s.after.ShowsGross config caller input more →
        grossPay ≤ more := by
  obtain ⟨actor, _, called, resolved', permitted, checks, b, paid, rfl⟩ :=
    showsGross_iff.1 shown
  rw [resolved] at resolved'
  cases resolved'
  have nonnegative : (s.before.payable scope input).Nonnegative :=
    s.before.paidMinutes_nonnegative _ _ _
  obtain ⟨b₁, b', before, after, order⟩ := grossPay_mono moderate rate bounded
    nonnegative (payable_of_counted (Step.counted_of_approval call)) few
  have same : b = b₁ :=
    Except.ok.inj ((priceFor_eq_ok.1 paid).2.symm.trans before)
  -- What is shown afterwards is priced by the minutes afterwards.
  have priced : ∀ {more}, s.after.ShowsGross config caller input more →
      s.after.Splittable scope input.employee input.period ∧
        b'.grossPay = more := by
    intro more later
    obtain ⟨_, _, _, resolved', _, _, b₂, paid', rfl⟩ :=
      showsGross_iff.1 later
    rw [resolved] at resolved'
    cases resolved'
    obtain ⟨divided, price⟩ := priceFor_eq_ok.1 paid'
    have found := after.symm.trans price
    cases found
    exact ⟨divided, rfl⟩
  constructor
  · constructor
    · rintro ⟨more, later⟩
      exact (priced later).1
    · intro divided
      exact ⟨b'.grossPay, showsGross_iff.2 ⟨actor, scope, called, resolved,
        permitted, checks.of_approval call, b',
        priceFor_eq_ok.2 ⟨divided, after⟩, rfl⟩⟩
  · intro more later
    rw [same, ← (priced later).2]
    exact order

end Shown

/-! ## More minutes -/

/-- For factors from one to a hundred and a rate of up to a thousand million,
more minutes are paid, and not less than fewer, as long as there are no more
than a thousand million of any kind: also where the minutes that are added are
the first on a holiday.  So an approval, in whatever store, does not lower the
gross pay of a preview that anybody was shown; and there is one to be shown,
unless the approved shift is too near the end of time to be divided. -/
theorem grossPay_of_more_minutes {hourlyRate : Int} {m : Multipliers}
    (moderate : m.Moderate) (rate : 0 < hourlyRate)
    (bounded : hourlyRate ≤ 10 ^ 9) :
    (∀ minutes more : PayableMinutes, minutes.Nonnegative →
      minutes.AtMost more → more.AtMost manyMinutes →
        ∃ b b', grossBreakdown minutes hourlyRate m = .ok b ∧
          grossBreakdown more hourlyRate m = .ok b' ∧
            b.grossPay ≤ b'.grossPay) ∧
    ∀ (s : Step) (id : String), s.call = .approveRecord id →
      ∀ (config : Config) (caller : Option Actor) (scope : TenantScope)
        (input : PreviewInput) (grossPay : Int),
        TenantScope.resolve caller config.features.tenancy = .ok scope →
        input.rateBy config = hourlyRate → input.factorsBy config = m →
        (s.after.payable scope input).AtMost manyMinutes →
        s.before.ShowsGross config caller input grossPay →
          ((∃ more, s.after.ShowsGross config caller input more) ↔
              s.after.Splittable scope input.employee input.period) ∧
            ∀ more, s.after.ShowsGross config caller input more →
              grossPay ≤ more := by
  refine ⟨?_, ?_⟩
  · intro minutes more nonnegative longer few
    exact grossPay_mono moderate rate bounded nonnegative longer few
  · rintro s id call config caller scope input grossPay resolved rfl rfl few
      shown
    exact shown.of_approval call resolved moderate rate bounded few

/-- An hour of overtime without a holiday and with the first minute of one. -/
theorem grossPay_of_firstHolidayMinute :
    (∃ b b', grossBreakdown ⟨0, 60, 0, 0⟩ 10000 Multipliers.standard = .ok b ∧
      grossBreakdown ⟨0, 60, 0, 1⟩ 10000 Multipliers.standard = .ok b' ∧
        b.grossPay ≤ b'.grossPay) ∧
    approvingHour.before.ShowsGross Config.standard approvingHour.ctx.actor
      firstHours 0 ∧
    ∃ more, approvingHour.after.ShowsGross Config.standard
      approvingHour.ctx.actor firstHours more ∧ 0 ≤ more := by
  have moderate : Multipliers.standard.Moderate := by
    constructor <;> decide +kernel
  obtain ⟨buckets, approvals⟩ := grossPay_of_more_minutes moderate
    (by decide : (0 : Int) < 10000) (by decide)
  have shown : approvingHour.before.ShowsGross Config.standard
      approvingHour.ctx.actor firstHours 0 :=
    ⟨approvingHour.ctx, .working, .previewPayroll firstHours, _, rfl, rfl,
      .gross, rfl, rfl⟩
  have hour : approvingHour.after.payable .everything firstHours =
      ⟨0, 0, 0, 60⟩ := by
    decide +kernel
  have divided : approvingHour.after.Splittable .everything
      firstHours.employee firstHours.period := by
    decide +kernel
  obtain ⟨shows, order⟩ := approvals approvingHour "2" rfl
    Config.standard _ .everything firstHours 0 rfl rfl rfl
    (by rw [hour]; constructor <;> decide) shown
  obtain ⟨more, later⟩ := shows.2 divided
  refine ⟨?_, shown, more, later, order more later⟩
  refine buckets _ _ ?_ ?_ ?_
  · constructor <;> decide
  · constructor <;> decide
  · constructor <;> decide

end Workforce
