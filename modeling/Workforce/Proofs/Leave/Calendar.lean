import Mathlib.Data.Set.Card
import Workforce.Proofs.Leave.Days
import Workforce.Proofs.Time.Calendar

/-!
# Days of leave on the calendar

Leave is counted by numbers that are worked out from whole seconds since the
start of 1970, shifted by nine hours.  This module compares these numbers with
a calendar on the wall: the dates that a clock nine hours ahead of UTC shows
while the leave lasts (`datesTouched`).  Between two instants, whatever clocks
they were read from,

* leave is counted exactly if it does not end before it starts;
* what is counted is the number of dates, of which there is at least one;
* two leaves overlap exactly if there is a date that is touched by both.

Fractions of a second do not count for the number of a day, but they do for the
order of two instants.  This makes no difference, as a day begins on a whole
second, also before 1970 (`civilDay_eq`).
-/

namespace Workforce

/-! ## Clocks -/

namespace ZonedTime

/-- The date that the wall clock shows. -/
def date (t : ZonedTime) : Date :=
  Date.ofDayNumber (t.localNanoseconds / Instant.perDay)

/-- Two clocks were read at the same moment: what they show is the same less
their offsets. -/
def SameMoment (a b : ZonedTime) : Prop :=
  a.localNanoseconds - a.offset * Instant.perMinute =
    b.localNanoseconds - b.offset * Instant.perMinute

theorem SameMoment.instant_eq {a b : ZonedTime} (same : a.SameMoment b) :
    a.instant = b.instant := by
  have shown : a.instant.nanoseconds = b.instant.nanoseconds := by
    unfold SameMoment localNanoseconds at same
    omega
  exact congrArg Instant.mk shown

end ZonedTime

/-- Nine hours are less than a day. -/
theorem civilOffset_lt : (540 : Int).natAbs < 1440 := by
  decide

/-- What a clock nine hours ahead of UTC shows. -/
def civilClock (t : Instant) : ZonedTime :=
  ⟨t, 540, civilOffset_lt⟩

/-- The number of a civil day is that of the date on the clock.  The whole
seconds are enough to tell it. -/
theorem civilDay_eq (t : Instant) :
    civilDay t = (civilClock t).localNanoseconds / Instant.perDay := by
  simp only [civilDay, civilClock, ZonedTime.localNanoseconds,
    civilOffsetSeconds, Instant.perDay, Instant.perMinute, Instant.perSecond]
  omega

theorem date_civilClock (t : Instant) :
    (civilClock t).date = Date.ofDayNumber (civilDay t) := by
  rw [ZonedTime.date, civilDay_eq]

/-- Every date is shown for a day number of its own. -/
theorem Date.ofDayNumber_injective : Function.Injective Date.ofDayNumber :=
  Function.LeftInverse.injective Date.dayNumber_ofDayNumber

/-- The instant at which a civil day begins. -/
def civilMidnight (day : Int) : Instant :=
  ⟨(day * 86400 - civilOffsetSeconds) * Instant.perSecond⟩

/-- A civil day lasts from its midnight up to the next. -/
theorem civilDay_eq_iff {t : Instant} {day : Int} :
    civilDay t = day ↔
      civilMidnight day ≤ t ∧ t < civilMidnight (day + 1) := by
  rw [Instant.le_iff, Instant.lt_iff]
  simp only [civilDay, civilMidnight, civilOffsetSeconds, Instant.perSecond]
  omega

theorem civilDay_civilMidnight (day : Int) :
    civilDay (civilMidnight day) = day := by
  rw [civilDay_eq_iff, Instant.le_iff, Instant.lt_iff]
  simp only [civilMidnight, Instant.perSecond]
  omega

/-! ## Dates of a span -/

/-- The dates that the civil clock shows from `start` to `finish`. -/
def datesTouched (start finish : Instant) : Set Date :=
  {date | ∃ t, start ≤ t ∧ t ≤ finish ∧ (civilClock t).date = date}

section Span

variable {start finish : Instant}

/-- Each day of the range has an instant in the span: its midnight, or the start
on the first day. -/
theorem exists_instant_of_mem_civilDays (ordered : start ≤ finish) {day : Int}
    (member : day ∈ (DayRange.ofInstants start finish).civilDays) :
    ∃ t, start ≤ t ∧ t ≤ finish ∧ civilDay t = day := by
  obtain ⟨after, before⟩ := DayRange.mem_civilDays.1 member
  by_cases begun : civilMidnight day ≤ start
  · have first : civilDay start = day := by
      have forward := civilDay_mono begun
      rw [civilDay_civilMidnight] at forward
      have range : civilDay start ≤ day := after
      omega
    exact ⟨start, Int.le_refl start.nanoseconds, ordered, first⟩
  · refine ⟨civilMidnight day, ?_, ?_, civilDay_civilMidnight day⟩
    · rw [Instant.le_iff] at begun ⊢
      omega
    · have reached : day ≤ civilDay finish := before
      have last := (civilDay_eq_iff (t := finish)).1 rfl
      rw [Instant.le_iff, Instant.lt_iff] at last
      rw [Instant.le_iff]
      simp only [civilMidnight, Instant.perSecond] at last ⊢
      omega

/-- The dates of a span are those of the days of its range. -/
theorem datesTouched_eq (ordered : start ≤ finish) :
    datesTouched start finish =
      ((DayRange.ofInstants start finish).civilDays.image
        Date.ofDayNumber : Finset Date) := by
  ext date
  simp only [datesTouched, Set.mem_ofPred_eq, Finset.coe_image, Set.mem_image,
    Finset.mem_coe, date_civilClock]
  constructor
  · rintro ⟨t, started, unfinished, rfl⟩
    refine ⟨civilDay t, DayRange.mem_civilDays.2 ⟨?_, ?_⟩, rfl⟩
    · exact civilDay_mono started
    · exact civilDay_mono unfinished
  · rintro ⟨day, member, rfl⟩
    obtain ⟨t, started, unfinished, same⟩ :=
      exists_instant_of_mem_civilDays ordered member
    exact ⟨t, started, unfinished, congrArg Date.ofDayNumber same⟩

/-- There are as many dates as days. -/
theorem ncard_datesTouched (ordered : start ≤ finish) :
    ((datesTouched start finish).ncard : Int) =
      civilDay finish - civilDay start + 1 := by
  rw [datesTouched_eq ordered, Set.ncard_coe_finset,
    Finset.card_image_of_injective _ Date.ofDayNumber_injective,
    DayRange.card_civilDays (DayRange.ofInstants_forward ordered)]
  rfl

/-- Leave that ends before it starts is refused for that. -/
theorem leaveDays_of_lt (backward : finish < start) :
    leaveDays start finish = Outcome.refuse
      (.validation "endDate must be same or after startDate") := by
  have unordered : ¬ start ≤ finish := by
    rw [Instant.lt_iff] at backward
    rw [Instant.le_iff]
    omega
  rw [leaveDays, Outcome.ensure_of_not unordered]
  rfl

end Span

/-- Ranges of days overlap if the spans have a date in common. -/
theorem overlaps_iff_common_date {start finish otherStart otherFinish : Instant}
    (ordered : start ≤ finish) (otherOrdered : otherStart ≤ otherFinish) :
    (DayRange.ofInstants start finish).overlaps
        (DayRange.ofInstants otherStart otherFinish) = true ↔
      ∃ date ∈ datesTouched start finish,
        date ∈ datesTouched otherStart otherFinish := by
  rw [DayRange.overlaps_iff (DayRange.ofInstants_forward ordered)
    (DayRange.ofInstants_forward otherOrdered), datesTouched_eq ordered,
    datesTouched_eq otherOrdered]
  simp only [Finset.mem_coe, Finset.mem_image]
  constructor
  · rintro ⟨day, there, here⟩
    exact ⟨Date.ofDayNumber day, ⟨day, here, rfl⟩, ⟨day, there, rfl⟩⟩
  · rintro ⟨_, ⟨day, here, rfl⟩, ⟨other, there, same⟩⟩
    obtain rfl := Date.ofDayNumber_injective same
    exact ⟨other, there, here⟩

/-! ## Leave on the calendar -/

/-- Leave from one reading of a clock to another.  It is counted exactly if it
does not end before it starts, and is refused for that otherwise; it counts the
dates that the civil clock shows in the meantime, at least one; another clock
read at the same moment makes no difference.  Two leaves overlap exactly if a
date is touched by both, whichever is compared with the other. -/
theorem leave_counts_dates (start finish : ZonedTime) :
    ((∃ days, leaveDays start.instant finish.instant = .ok days) ↔
      start.instant ≤ finish.instant) ∧
    (finish.instant < start.instant →
      leaveDays start.instant finish.instant = Outcome.refuse
        (.validation "endDate must be same or after startDate")) ∧
    (∀ days, leaveDays start.instant finish.instant = .ok days →
      1 ≤ days ∧
        days = ((datesTouched start.instant finish.instant).ncard : Int)) ∧
    (∀ start' finish' : ZonedTime, start'.SameMoment start →
      finish'.SameMoment finish →
        leaveDays start'.instant finish'.instant =
          leaveDays start.instant finish.instant ∧
        DayRange.ofInstants start'.instant finish'.instant =
          DayRange.ofInstants start.instant finish.instant) ∧
    (∀ otherStart otherFinish : ZonedTime,
      (DayRange.ofInstants start.instant finish.instant).overlaps
          (.ofInstants otherStart.instant otherFinish.instant) =
        (DayRange.ofInstants otherStart.instant otherFinish.instant).overlaps
          (.ofInstants start.instant finish.instant) ∧
      (start.instant ≤ finish.instant →
        otherStart.instant ≤ otherFinish.instant →
          ((DayRange.ofInstants start.instant finish.instant).overlaps
              (.ofInstants otherStart.instant otherFinish.instant) = true ↔
            ∃ date ∈ datesTouched start.instant finish.instant,
              date ∈ datesTouched otherStart.instant
                otherFinish.instant))) := by
  refine ⟨?_, leaveDays_of_lt, ?_, ?_, ?_⟩
  · constructor
    · rintro ⟨days, counted⟩
      exact (leaveDays_eq_ok.1 counted).1
    · intro ordered
      exact ⟨_, leaveDays_eq_ok.2 ⟨ordered, rfl⟩⟩
  · intro days counted
    obtain ⟨ordered, rfl⟩ := leaveDays_eq_ok.1 counted
    have forward := civilDay_mono ordered
    refine ⟨by omega, ?_⟩
    exact (ncard_datesTouched ordered).symm
  · intro start' finish' sameStart sameFinish
    rw [sameStart.instant_eq, sameFinish.instant_eq]
    exact ⟨rfl, rfl⟩
  · intro otherStart otherFinish
    exact ⟨LeaveApart.overlaps_comm _ _, overlaps_iff_common_date⟩

/-- The last half second of a civil day and the first instant of the next, read
on clocks in two places: a leave of two days, which overlaps with one that
begins a nanosecond before it ends. -/
theorem leave_counts_midnight :
    let late : ZonedTime := ⟨⟨-32400500000000⟩, -210, by decide⟩
    let midnight : ZonedTime := ⟨⟨-32400000000000⟩, 540, by decide⟩
    let before : ZonedTime := .ofInstant ⟨-32400000000001⟩
    late.instant ≤ midnight.instant ∧
      leaveDays late.instant midnight.instant = .ok 2 ∧
      (datesTouched late.instant midnight.instant).ncard = 2 ∧
      before.instant ≤ before.instant ∧
      ∃ date ∈ datesTouched late.instant midnight.instant,
        date ∈ datesTouched before.instant before.instant := by
  intro late midnight before
  obtain ⟨_, _, counts, _, overlaps⟩ := leave_counts_dates late midnight
  have two : leaveDays late.instant midnight.instant = .ok 2 := by
    decide +kernel
  have dates := (counts 2 two).2
  have forward : late.instant ≤ midnight.instant := by
    decide
  have self : before.instant ≤ before.instant := by
    decide
  refine ⟨forward, two, by omega, self, ?_⟩
  exact ((overlaps before before).2 forward self).1 (by decide)

end Workforce
