import Workforce.Attendance.Minutes

/-!
# Minutes of the night in closed form

Night work is counted by looking at the minutes of a shift one after the other,
for one day at most.  This module shows what that count comes to.  With `m` the
minute of the day at check-in, on the wall clock of the check-in, and `n` the
number of whole minutes from check-in to check-out, cut off at a day:

* the first minute counts if `m` is in the first four hours of the day
  (`isNightHour_iff`), and the rest of the shift is a shift from the next minute
  (`countNight_eq`);
* so the count is the overlap of the minutes from `m` to `m + n` with the
  nights of the day of check-in and of the next (`nightOverlap`), which no
  second and no date enters;
* there is a count exactly if the minutes that are looked at end in the time
  that is kept (`Scannable`).  One more minute is looked at than counted, unless
  a day is over; so in the last minute that is kept no count is possible, not
  even of no minutes.

Minutes have sixty seconds here: of leap seconds nothing is said.
-/

namespace Workforce

/-- The minute of the day that the wall clock shows; seconds are dropped. -/
def ZonedTime.minuteOfDay (t : ZonedTime) : Int :=
  t.localNanoseconds % Instant.perDay / Instant.perMinute

/-- The whole minutes from check-in to check-out, but at least none. -/
def wholeMinutes (checkIn checkOut : Instant) : Int :=
  max 0 ((checkOut.nanoseconds - checkIn.nanoseconds) / Instant.perMinute)

/-- The whole minutes from check-in to check-out, from none to those of a
day. -/
def scannedMinutes (checkIn checkOut : ZonedTime) : Int :=
  min 1440 (wholeMinutes checkIn.instant checkOut.instant)

/-- How many of the `n` minutes from minute `m` of a day fall into the first
four hours of that day, or of the next. -/
def nightOverlap (m n : Int) : Int :=
  max 0 (min (m + n) 240 - m) + max 0 (min (m + n) 1680 - max m 1440)

/-- The minutes of the night in a shift, by that formula. -/
def darkMinutes (checkIn checkOut : ZonedTime) : Int :=
  nightOverlap checkIn.minuteOfDay (scannedMinutes checkIn checkOut)

/-- The minutes that are looked at end in the time that is kept: those of the
shift and one more, but no more than a day has. -/
def Scannable (checkIn checkOut : ZonedTime) : Prop :=
  checkIn.instant.addMinutes (min (scannedMinutes checkIn checkOut + 1) 1440) ≤
    Instant.latest

instance (checkIn checkOut : ZonedTime) :
    Decidable (Scannable checkIn checkOut) :=
  inferInstanceAs (Decidable (_ ≤ _))

theorem scannedMinutes_bounds (checkIn checkOut : ZonedTime) :
    0 ≤ scannedMinutes checkIn checkOut ∧
      scannedMinutes checkIn checkOut ≤ 1440 := by
  simp only [scannedMinutes, wholeMinutes]
  omega

/-! ## One minute -/

namespace ZonedTime

theorem minuteOfDay_bounds (t : ZonedTime) :
    0 ≤ t.minuteOfDay ∧ t.minuteOfDay < 1440 := by
  unfold minuteOfDay Instant.perDay Instant.perMinute Instant.perSecond
  omega

theorem minuteOfDay_next (t : ZonedTime) :
    (t.addMinutes 1).minuteOfDay = (t.minuteOfDay + 1) % 1440 := by
  simp only [minuteOfDay, localNanoseconds, addMinutes, Instant.addMinutes,
    Instant.perDay, Instant.perMinute, Instant.perSecond]
  omega

end ZonedTime

/-- The wall clock shows an hour of the night in the first 240 minutes of a
day. -/
theorem isNightHour_iff (t : ZonedTime) :
    isNightHour t = true ↔ t.minuteOfDay < 240 := by
  rw [isNightHour, ZonedTime.hour, ZonedTime.minuteOfDay, Bool.and_eq_true,
    decide_eq_true_eq, decide_eq_true_eq]
  simp only [Instant.perDay, Instant.perMinute, Instant.perSecond]
  omega

/-- A minute ends by check-out if there is a whole one left, and leaves one
less. -/
theorem wholeMinutes_next (t : ZonedTime) (checkOut : Instant) :
    (checkOut < (t.addMinutes 1).instant ↔
      wholeMinutes t.instant checkOut = 0) ∧
    wholeMinutes (t.addMinutes 1).instant checkOut =
      max 0 (wholeMinutes t.instant checkOut - 1) := by
  simp only [Instant.lt_iff, wholeMinutes, ZonedTime.addMinutes,
    Instant.addMinutes, Instant.perMinute, Instant.perSecond]
  omega

/-- The overlap of some minutes is that of all but the first, and one more if
the first is of the night. -/
theorem nightOverlap_succ {m n : Int} (first : 0 ≤ m ∧ m < 1440)
    (within : 0 ≤ n ∧ n < 1440) :
    nightOverlap m (n + 1) =
      (if m < 240 then 1 else 0) + nightOverlap ((m + 1) % 1440) n := by
  unfold nightOverlap
  split
  · omega
  · omega

/-- No more minutes fall into the night than there are, nor than the night
has. -/
theorem nightOverlap_bounds {m n : Int} (first : 0 ≤ m ∧ m < 1440)
    (within : 0 ≤ n ∧ n ≤ 1440) :
    0 ≤ nightOverlap m n ∧ nightOverlap m n ≤ min n 240 := by
  unfold nightOverlap
  omega

/-- A whole day has a whole night, wherever it begins. -/
theorem nightOverlap_day {m : Int} (first : 0 ≤ m ∧ m < 1440) :
    nightOverlap m 1440 = 240 := by
  unfold nightOverlap
  omega

/-! ## The count -/

/-- One step of the count, by the whole minutes that are left. -/
theorem countNight_succ (checkOut : Instant) (limit : Nat) (t : ZonedTime) :
    countNight checkOut (limit + 1) t =
      if (t.addMinutes 1).instant ≤ Instant.latest then
        if wholeMinutes t.instant checkOut = 0 then .ok 0
        else (countNight checkOut limit (t.addMinutes 1)).map
          ((if t.minuteOfDay < 240 then 1 else 0) + ·)
      else .error .instant := by
  rw [countNight, ZonedTime.nextMinute]
  by_cases kept : (t.addMinutes 1).instant ≤ Instant.latest
  · rw [if_pos kept, if_pos kept]
    simp only [bind, Except.bind, (wholeMinutes_next t checkOut).1,
      isNightHour_iff]
    rfl
  · rw [if_neg kept, if_neg kept]
    rfl

/-- A shift from the next minute on has the same minutes, one later each. -/
theorem addMinutes_next (t : ZonedTime) (k : Int) :
    (t.addMinutes 1).instant.addMinutes k = t.instant.addMinutes (1 + k) := by
  simp only [ZonedTime.addMinutes, Instant.addMinutes, Int.add_mul,
    Int.one_mul, Int.add_assoc]

theorem addMinutes_zero (t : Instant) : t.addMinutes 0 = t := by
  simp only [Instant.addMinutes, Int.zero_mul, Int.add_zero]

theorem addMinutes_mono (t : Instant) {j k : Int} (order : j ≤ k) :
    t.addMinutes j ≤ t.addMinutes k := by
  simp only [Instant.le_iff, Instant.addMinutes, Instant.perMinute,
    Instant.perSecond]
  omega

theorem nightOverlap_zero {m : Int} (first : 0 ≤ m ∧ m < 1440) :
    nightOverlap m 0 = 0 := by
  unfold nightOverlap
  omega

/-- What the count comes to from a minute that is kept, for a day at most. -/
theorem countNight_eq (checkOut : Instant) {limit : Nat}
    (within : limit ≤ 1440) {t : ZonedTime}
    (kept : t.instant ≤ Instant.latest) :
    let whole := wholeMinutes t.instant checkOut
    countNight checkOut limit t =
      if t.instant.addMinutes (min (whole + 1) limit) ≤ Instant.latest then
        .ok (nightOverlap t.minuteOfDay (min whole limit))
      else .error .instant := by
  intro whole
  have least : 0 ≤ whole := Int.le_max_left 0 _
  have first := t.minuteOfDay_bounds
  induction limit generalizing t with
  | zero =>
      have none : min (whole + 1) ((0 : Nat) : Int) = 0 := by
        omega
      have count : min whole ((0 : Nat) : Int) = 0 := by
        omega
      rw [none, addMinutes_zero, if_pos kept, count, nightOverlap_zero first]
      rfl
  | succ limit inductionHypothesis =>
      rw [countNight_succ]
      by_cases next : (t.addMinutes 1).instant ≤ Instant.latest
      · rw [if_pos next]
        by_cases ended : whole = 0
        · have one : min (whole + 1) ((limit + 1 : Nat) : Int) = 1 := by
            omega
          have none : min whole ((limit + 1 : Nat) : Int) = 0 := by
            omega
          rw [if_pos ended, one, none, nightOverlap_zero first]
          exact (if_pos next).symm
        · -- What is left of the shift starts with the next minute.
          have left : wholeMinutes (t.addMinutes 1).instant checkOut =
              whole - 1 := by
            rw [(wholeMinutes_next t checkOut).2]
            omega
          have rest := inductionHypothesis (Nat.le_of_succ_le within) next
          rw [left] at rest
          rw [if_neg ended, rest (by omega) (t.addMinutes 1).minuteOfDay_bounds,
            addMinutes_next, t.minuteOfDay_next]
          have looked : 1 + min (whole - 1 + 1) (limit : Int) =
              min (whole + 1) ((limit + 1 : Nat) : Int) := by
            omega
          have count : min whole ((limit + 1 : Nat) : Int) =
              min (whole - 1) (limit : Int) + 1 := by
            omega
          rw [looked, count, nightOverlap_succ first (by omega),
            apply_ite (Except.map _)]
          rfl
      · have beyond : ¬ t.instant.addMinutes
            (min (whole + 1) ((limit + 1 : Nat) : Int)) ≤ Instant.latest :=
          fun looked => next (Int.le_trans
            (addMinutes_mono t.instant (by omega)) looked)
        rw [if_neg next, if_neg beyond]

/-- The count of the minutes of the night: the overlap, where it can be made. -/
theorem nightMinutes_eq (checkIn checkOut : ZonedTime) :
    nightMinutes checkIn checkOut =
      if Scannable checkIn checkOut then .ok (darkMinutes checkIn checkOut)
      else .error .instant := by
  have reach : min (scannedMinutes checkIn checkOut + 1) 1440 =
      min (wholeMinutes checkIn.instant checkOut.instant + 1) 1440 := by
    simp only [scannedMinutes]
    omega
  by_cases kept : checkIn.instant ≤ Instant.latest
  · have counted := @countNight_eq checkOut.instant nightScanLimit
      (Nat.le_refl _) checkIn kept
    rw [nightMinutes, counted, Int.min_comm (wholeMinutes _ _)]
    simp only [Scannable, reach]
    rfl
  · -- What is not kept has no next minute, and no minute that is looked at.
    have late : ∀ k, 0 ≤ k →
        ¬ checkIn.instant.addMinutes k ≤ Instant.latest := by
      intro k later held
      have order := addMinutes_mono checkIn.instant later
      rw [addMinutes_zero] at order
      exact kept (Int.le_trans order held)
    have least : 0 ≤ wholeMinutes checkIn.instant checkOut.instant :=
      Int.le_max_left 0 _
    have beyond : ¬ Scannable checkIn checkOut := by
      rw [Scannable, reach]
      exact late _ (by omega)
    rw [if_neg beyond, nightMinutes, nightScanLimit, countNight_succ]
    exact if_neg (late 1 (by decide))

/-- A shift that begins a day before the end of the time that is kept, or
earlier, can be counted. -/
theorem scannable_of_early {checkIn : ZonedTime} (checkOut : ZonedTime)
    (early : checkIn.instant.addMinutes 1440 ≤ Instant.latest) :
    Scannable checkIn checkOut :=
  Int.le_trans (addMinutes_mono checkIn.instant (Int.min_le_right _ 1440))
    early

/-! ## In closed form -/

/-- The minutes of the night in closed form: the overlap of the minutes from
the minute of check-in, as many as there are up to check-out and at most a day,
with the nights of the day of check-in and of the next.  They are counted
exactly if the minutes looked at end in the time that is kept, which they do
for any shift that begins a day before its end; otherwise there is an overflow.
The count is that of any other shift with these two numbers; it is no more than
the minutes of the shift, nor than 240, which a whole day has. -/
theorem nightMinutes_closed_form (checkIn checkOut : ZonedTime) :
    let m := checkIn.minuteOfDay
    let n := scannedMinutes checkIn checkOut
    let count := max 0 (min (m + n) 240 - m) +
      max 0 (min (m + n) 1680 - max m 1440)
    (Scannable checkIn checkOut → nightMinutes checkIn checkOut = .ok count) ∧
      (¬ Scannable checkIn checkOut →
        nightMinutes checkIn checkOut = .error .instant) ∧
      (checkIn.instant.addMinutes 1440 ≤ Instant.latest →
        Scannable checkIn checkOut) ∧
      (∀ otherIn otherOut : ZonedTime, otherIn.minuteOfDay = m →
        scannedMinutes otherIn otherOut = n → Scannable otherIn otherOut →
          nightMinutes otherIn otherOut = .ok count) ∧
      count ≤ min n 240 ∧ (n = 1440 → count = 240) := by
  intro m n count
  have first : 0 ≤ m ∧ m < 1440 := checkIn.minuteOfDay_bounds
  have within : 0 ≤ n ∧ n ≤ 1440 := scannedMinutes_bounds checkIn checkOut
  have overlap : count = nightOverlap m n := rfl
  refine ⟨?_, ?_, scannable_of_early checkOut, ?_, ?_, ?_⟩
  · intro scannable
    rw [nightMinutes_eq, if_pos scannable]
    rfl
  · intro beyond
    rw [nightMinutes_eq, if_neg beyond]
  · intro otherIn otherOut sameMinute sameCount scannable
    rw [nightMinutes_eq, if_pos scannable, darkMinutes, sameMinute, sameCount,
      overlap]
  · rw [overlap]
    exact (nightOverlap_bounds first within).2
  · intro wholeDay
    rw [overlap, wholeDay]
    exact nightOverlap_day first

/-- Half a minute after 23:50 on a clock five hours and a half ahead of
UTC. -/
def lateCheckIn : ZonedTime :=
  ⟨⟨(18 * 60 + 20) * Instant.perMinute + 30 * Instant.perSecond⟩, 330,
    by decide⟩

/-- So many nanoseconds after a check-in, on a clock five hours behind UTC. -/
def checkOutAfter (checkIn : ZonedTime) (nanoseconds : Int) : ZonedTime :=
  ⟨⟨checkIn.instant.nanoseconds + nanoseconds⟩, -300, by decide⟩

/-- A shift from 23:50:30 that is a nanosecond short of 200 minutes has 199,
of which ten pass before midnight.  Another one, from 23:50:00 of the day
before on a clock that shows UTC, has as many minutes of the night, and one of
two days has 240. -/
theorem nightMinutes_lateShift :
    let checkOut :=
      checkOutAfter lateCheckIn (200 * Instant.perMinute - 1)
    let dayBefore := ZonedTime.ofInstant ⟨-10 * Instant.perMinute⟩
    let checkOutBefore :=
      checkOutAfter dayBefore (199 * Instant.perMinute)
    let checkOutLater := checkOutAfter lateCheckIn (2 * Instant.perDay)
    nightMinutes lateCheckIn checkOut = .ok 189 ∧
      (dayBefore.minuteOfDay = lateCheckIn.minuteOfDay ∧
        scannedMinutes dayBefore checkOutBefore =
          scannedMinutes lateCheckIn checkOut ∧
        nightMinutes dayBefore checkOutBefore = .ok 189) ∧
      scannedMinutes lateCheckIn checkOutLater = 1440 ∧
      nightMinutes lateCheckIn checkOutLater = .ok 240 := by
  intro checkOut dayBefore checkOutBefore checkOutLater
  obtain ⟨counted, _, early, others, _⟩ :=
    nightMinutes_closed_form lateCheckIn checkOut
  obtain ⟨countedLater, _, earlyLater, _, _, wholeDay⟩ :=
    nightMinutes_closed_form lateCheckIn checkOutLater
  refine ⟨counted (early (by decide)), ⟨rfl, rfl, ?_⟩, rfl, ?_⟩
  · exact others dayBefore checkOutBefore rfl rfl (by decide)
  · rw [countedLater (earlyLater (by decide)), wholeDay rfl]

/-- A shift that begins and ends in the last minute that is kept has no
minutes, so that the formula gives none of the night; but to see this, a minute
is looked at that is not kept. -/
theorem nightMinutes_lastMinute :
    let checkIn := ZonedTime.ofInstant
      ⟨Instant.latest.nanoseconds + 1 - 30 * Instant.perSecond⟩
    checkIn.instant ≤ Instant.latest ∧
      scannedMinutes checkIn checkIn = 0 ∧ darkMinutes checkIn checkIn = 0 ∧
      nightMinutes checkIn checkIn = .error .instant :=
  ⟨by decide, rfl, rfl, rfl⟩

end Workforce
