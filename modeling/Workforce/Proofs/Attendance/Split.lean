import Workforce.Proofs.Attendance.Night
import Workforce.Proofs.Pay.Gross

/-!
# How the minutes of a shift divide

The minutes that were worked and the minutes of the night come from two
sources.  The first are the whole minutes of the time elapsed, less the break;
the second are counted one after the other, and no break enters the count.
This module shows that the split makes one account of both:

* no kind has less than no minutes, and together they are the minutes that were
  worked (`Divides.total`);
* up to the daily limit they are regular, night or holiday minutes, and beyond
  it they are overtime;
* the night minutes are those of the count as far as there is room for them.

A shift without a break has room for all of them: the count looks at whole
minutes only, and a night is shorter than the daily limit
(`darkMinutes_le_budget`).

A shift cannot be divided where its minutes of the night are needed and cannot
be counted (`Splittable`), which is for no other reason than that it is too
near the end of the time that is kept.
-/

namespace Workforce

/-- `Divides worked dark isHoliday m`: the minutes that were worked, of which
so many were seen to be of the night, are divided up as `m`. -/
structure PayableMinutes.Divides (worked dark : Int) (isHoliday : Bool)
    (m : PayableMinutes) : Prop where
  nonnegative : m.Nonnegative
  total : m.total = worked
  budget : m.regular + m.night + m.holiday = min worked 480
  overtime : m.overtime = max 0 (worked - 480)
  onHoliday : isHoliday = true → m.regular = 0 ∧ m.night = 0
  onWorkday : isHoliday = false →
    m.holiday = 0 ∧ m.night = min dark (min worked 480)

section Split

variable (checkIn checkOut : ZonedTime) (breakMinutes : Int)
  (isHoliday : Bool)

/-- The minutes that were worked, in one formula: a shift that does not end
after it starts has no minutes for the break to be taken from. -/
theorem workedMinutes_eq :
    workedMinutes checkIn checkOut breakMinutes =
      max 0 ((checkOut.instant.nanoseconds - checkIn.instant.nanoseconds) /
        Instant.perMinute - max 0 breakMinutes) := by
  simp only [workedMinutes]
  split
  · rename_i backward
    simp only [Instant.perMinute, Instant.perSecond]
    omega
  · rfl

theorem workedMinutes_nonneg :
    0 ≤ workedMinutes checkIn checkOut breakMinutes := by
  rw [workedMinutes_eq]
  exact Int.le_max_left 0 _

/-- A shift can be divided: if there was work, on no holiday, the minutes of the
night can be counted. -/
def Splittable : Prop :=
  0 < workedMinutes checkIn checkOut breakMinutes → isHoliday = false →
    Scannable checkIn checkOut

instance : Decidable (Splittable checkIn checkOut breakMinutes isHoliday) :=
  inferInstanceAs (Decidable (_ → _ → _))

/-- The minutes of a shift by the way they are paid, with those of the night by
the formula. -/
def exactMinutes : PayableMinutes :=
  .divide (workedMinutes checkIn checkOut breakMinutes)
    (darkMinutes checkIn checkOut) isHoliday

theorem darkMinutes_bounds :
    0 ≤ darkMinutes checkIn checkOut ∧
      darkMinutes checkIn checkOut ≤
        min (scannedMinutes checkIn checkOut) 240 :=
  nightOverlap_bounds checkIn.minuteOfDay_bounds
    (scannedMinutes_bounds checkIn checkOut)

/-- Without a break, all minutes of the night were worked within the daily
limit. -/
theorem darkMinutes_le_budget (unbroken : breakMinutes ≤ 0) :
    darkMinutes checkIn checkOut ≤
      min (workedMinutes checkIn checkOut breakMinutes) 480 := by
  have counted := (darkMinutes_bounds checkIn checkOut).2
  have looked : scannedMinutes checkIn checkOut ≤
      workedMinutes checkIn checkOut breakMinutes := by
    rw [workedMinutes_eq, scannedMinutes, wholeMinutes]
    omega
  omega

theorem exactMinutes_divides :
    (exactMinutes checkIn checkOut breakMinutes isHoliday).Divides
      (workedMinutes checkIn checkOut breakMinutes)
      (darkMinutes checkIn checkOut) isHoliday := by
  have work := workedMinutes_nonneg checkIn checkOut breakMinutes
  have night := (darkMinutes_bounds checkIn checkOut).1
  unfold exactMinutes PayableMinutes.divide dailyRegularLimit
  generalize workedMinutes checkIn checkOut breakMinutes = worked at work ⊢
  generalize darkMinutes checkIn checkOut = dark at night ⊢
  cases isHoliday with
  | true =>
      refine ⟨⟨le_rfl, Int.le_max_left 0 _, le_rfl, ?_⟩, ?_, ?_, rfl,
        fun _ => ⟨rfl, rfl⟩, nofun⟩
      all_goals
        simp only [PayableMinutes.total, if_true]
        omega
  | false =>
      refine ⟨⟨?_, Int.le_max_left 0 _, ?_, le_rfl⟩, ?_, ?_, rfl, nofun,
        fun _ => ⟨rfl, rfl⟩⟩
      all_goals
        simp only [PayableMinutes.total, Bool.false_eq_true, if_false]
        omega

/-- No minutes divide into none. -/
theorem PayableMinutes.divide_none {dark : Int} (night : 0 ≤ dark) :
    divide 0 dark isHoliday = zero := by
  cases isHoliday with
  | true =>
      rfl
  | false =>
      have none : min dark 0 = 0 := Int.min_eq_right night
      simp [divide, dailyRegularLimit, none, zero]

/-- What a shift is divided into, if it can be. -/
theorem splitMinutes_eq :
    splitMinutes checkIn checkOut breakMinutes isHoliday =
      if Splittable checkIn checkOut breakMinutes isHoliday then
        .ok (exactMinutes checkIn checkOut breakMinutes isHoliday)
      else .error .instant := by
  have least := workedMinutes_nonneg checkIn checkOut breakMinutes
  unfold splitMinutes exactMinutes
  by_cases idle : workedMinutes checkIn checkOut breakMinutes ≤ 0
  · have splits : Splittable checkIn checkOut breakMinutes isHoliday :=
      fun work => absurd idle (Int.not_le.2 work)
    have none : workedMinutes checkIn checkOut breakMinutes = 0 :=
      Int.le_antisymm idle least
    rw [if_pos splits, none,
      PayableMinutes.divide_none _ (darkMinutes_bounds checkIn checkOut).1]
    rfl
  · cases isHoliday with
    | true =>
        have splits : Splittable checkIn checkOut breakMinutes true :=
          fun _ => nofun
        simp only [if_neg idle, if_pos splits]
        rfl
    | false =>
        have splits : Splittable checkIn checkOut breakMinutes false ↔
            Scannable checkIn checkOut :=
          ⟨fun splits => splits (Int.not_le.1 idle) rfl,
            fun scannable _ _ => scannable⟩
        simp only [if_neg idle, Bool.false_eq_true, if_false, splits,
          nightMinutes_eq]
        by_cases scannable : Scannable checkIn checkOut
        · simp only [if_pos scannable]
          rfl
        · simp only [if_neg scannable]
          rfl

end Split

namespace WorkInterval

/-- A shift that can be divided. -/
def Splittable (w : WorkInterval) : Prop :=
  Workforce.Splittable w.checkIn w.checkOut w.breakMinutes w.isHoliday

instance : DecidablePred Splittable := fun _ =>
  inferInstanceAs (Decidable (Workforce.Splittable ..))

/-- The minutes of a shift by the way they are paid. -/
def minutes (w : WorkInterval) : PayableMinutes :=
  exactMinutes w.checkIn w.checkOut w.breakMinutes w.isHoliday

theorem split_eq (w : WorkInterval) :
    w.split = if w.Splittable then .ok w.minutes else .error .instant :=
  splitMinutes_eq w.checkIn w.checkOut w.breakMinutes w.isHoliday

theorem splittable_of_early {w : WorkInterval}
    (early : w.checkIn.instant.addMinutes 1440 ≤ Instant.latest) :
    w.Splittable :=
  fun _ _ => scannable_of_early w.checkOut early

end WorkInterval

/-- Whatever the shift is, forward or backward in time, on whichever clocks and
with whichever break: the minutes that were worked, which are the whole minutes
less the break, are divided up without a minute lost or counted twice.  If
there was no break, no minute of the night is lost to the daily limit.  The
shift is divided exactly if it can be, which any shift can that begins a day
before the end of the time that is kept; otherwise there is an overflow. -/
theorem splitMinutes_conserves (checkIn checkOut : ZonedTime)
    (breakMinutes : Int) (isHoliday : Bool) :
    let elapsed := checkOut.instant.nanoseconds - checkIn.instant.nanoseconds
    let worked := workedMinutes checkIn checkOut breakMinutes
    let dark := darkMinutes checkIn checkOut
    let split := splitMinutes checkIn checkOut breakMinutes isHoliday
    worked = max 0 (elapsed / Instant.perMinute - max 0 breakMinutes) ∧
      (Scannable checkIn checkOut →
        nightMinutes checkIn checkOut = .ok dark) ∧
      (Splittable checkIn checkOut breakMinutes isHoliday →
        ∃ m, split = .ok m ∧ m.Divides worked dark isHoliday ∧
          (isHoliday = false → breakMinutes ≤ 0 → m.night = dark)) ∧
      (¬ Splittable checkIn checkOut breakMinutes isHoliday →
        split = .error .instant) ∧
      (checkIn.instant.addMinutes 1440 ≤ Instant.latest →
        Scannable checkIn checkOut ∧
          Splittable checkIn checkOut breakMinutes isHoliday) := by
  intro elapsed worked dark split
  refine ⟨workedMinutes_eq checkIn checkOut breakMinutes, ?_, ?_, ?_, ?_⟩
  · intro scannable
    rw [nightMinutes_eq, if_pos scannable]
  · intro splits
    have divides := exactMinutes_divides checkIn checkOut breakMinutes
      isHoliday
    refine ⟨_, (splitMinutes_eq _ _ _ _).trans (if_pos splits), divides, ?_⟩
    intro workday unbroken
    rw [(divides.onWorkday workday).2]
    exact min_eq_left (darkMinutes_le_budget checkIn checkOut breakMinutes
      unbroken)
  · intro beyond
    exact (splitMinutes_eq _ _ _ _).trans (if_neg beyond)
  · intro early
    have scannable := scannable_of_early checkOut early
    exact ⟨scannable, fun _ _ => scannable⟩

/-- Ten hours and a part of a minute from 23:50:30, with a break that is below
zero: 600 minutes are worked, and all 240 of the night are paid as such. -/
theorem splitMinutes_lateShift :
    let checkOut := checkOutAfter lateCheckIn
      (600 * Instant.perMinute + 59 * Instant.perSecond)
    workedMinutes lateCheckIn checkOut (-30) = 600 ∧
      ∃ m, splitMinutes lateCheckIn checkOut (-30) false = .ok m ∧
        m.Divides 600 240 false ∧ m.night = 240 := by
  intro checkOut
  obtain ⟨worked, _, divided, _, early⟩ :=
    splitMinutes_conserves lateCheckIn checkOut (-30) false
  have worked : workedMinutes lateCheckIn checkOut (-30) = 600 := worked
  have dark : darkMinutes lateCheckIn checkOut = 240 := rfl
  obtain ⟨m, split, divides, unbroken⟩ := divided (early (by decide)).2
  rw [worked, dark] at divides
  exact ⟨worked, m, split, divides, (unbroken rfl (by decide)).trans dark⟩

/-- In the last two minutes that are kept, one minute is worked and none of the
night: it cannot be divided, since the minute after it is looked at. -/
theorem splitMinutes_lastMinutes :
    let checkIn := ZonedTime.ofInstant
      ⟨Instant.latest.nanoseconds + 1 - 90 * Instant.perSecond⟩
    let checkOut := ZonedTime.ofInstant
      ⟨Instant.latest.nanoseconds + 1 - Instant.perSecond⟩
    checkOut.instant ≤ Instant.latest ∧ workedMinutes checkIn checkOut 0 = 1 ∧
      darkMinutes checkIn checkOut = 0 ∧
      splitMinutes checkIn checkOut 0 false = .error .instant :=
  ⟨by decide, rfl, rfl, rfl⟩

end Workforce
