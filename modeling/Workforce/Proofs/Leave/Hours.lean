import Workforce.Proofs.Leave.Calendar
import Workforce.Proofs.Listing
import Workforce.Proofs.Tenancy.Overlap

/-!
# Leave by the day and leave by the hour

Whether a request for leave stands in the way of another is a question of civil
days.  Whether a list over a period has it is a question of instants.  This
module compares the two, for any actor who may list the leave of the employee
and whose scope leaves none of it out:

* a list over the whole civil days of a period has among its active requests
  those that stand in the way of leave in the period, and no others
  (`Period.meets_wholeDays`);
* a list over the period itself lacks those that are beside it: they end
  earlier on the day on which it starts, or start later on the day on which it
  ends (`LeaveRequest.Beside`);
* who is refused because of an overlap therefore finds a reason in the first
  list in any case, and in the second one exactly if not all that stands in the
  way is beside the period.

Nothing is beside anything as long as leave starts at midnight.  The last
section has a request of two days, from midnight to midnight, and somebody who
asks for leave from ten o'clock on the second of them.
-/

namespace Workforce

/-! ## Whole days -/

theorem Instant.not_le_iff {s t : Instant} : ¬ s ≤ t ↔ t < s := by
  rw [le_iff, lt_iff, Int.not_le]

/-- The last instant of a civil day. -/
def civilLast (day : Int) : Instant :=
  ⟨(civilMidnight (day + 1)).nanoseconds - 1⟩

section Day

variable {day : Int} {t : Instant}

theorem civilMidnight_le_iff : civilMidnight day ≤ t ↔ day ≤ civilDay t := by
  rw [Instant.le_iff]
  simp only [civilMidnight, civilDay, civilOffsetSeconds, Instant.perSecond]
  omega

theorem le_civilLast_iff : t ≤ civilLast day ↔ civilDay t ≤ day := by
  rw [Instant.le_iff]
  simp only [civilLast, civilMidnight, civilDay, civilOffsetSeconds,
    Instant.perSecond]
  omega

/-- An instant that begins a civil day. -/
def Instant.IsMidnight (t : Instant) : Prop :=
  t = civilMidnight (civilDay t)

/-- What begins a day is not later than anything else on the day. -/
theorem Instant.IsMidnight.le_of_civilDay_eq {s : Instant}
    (midnight : t.IsMidnight) (same : civilDay s = civilDay t) : t ≤ s := by
  rw [midnight, civilMidnight_le_iff, same]

end Day

theorem DayRange.overlaps_iff_le {a b : DayRange} :
    a.overlaps b = true ↔ a.first ≤ b.last ∧ b.first ≤ a.last := by
  simp [overlaps]

namespace Period

/-- The period from the start of its first civil day to the end of its last
one. -/
def wholeDays (p : Period) : Period :=
  ⟨civilMidnight (civilDay p.start), civilLast (civilDay p.finish)⟩

/-- The civil days of a period. -/
def dayRange (p : Period) : DayRange :=
  DayRange.ofInstants p.start p.finish

theorem meets_iff_le {p : Period} {start finish : Instant} :
    p.meets start finish = true ↔ start ≤ p.finish ∧ p.start ≤ finish := by
  simp [meets]

/-- To meet the whole days of a period is to have a civil day in common with
it. -/
theorem meets_wholeDays (p : Period) (start finish : Instant) :
    p.wholeDays.meets start finish =
      (DayRange.ofInstants start finish).overlaps p.dayRange := by
  rw [Bool.eq_iff_iff, meets_iff_le, wholeDays, le_civilLast_iff,
    civilMidnight_le_iff, DayRange.overlaps_iff_le]
  rfl

/-- The whole days of a period are a period, and no empty one. -/
theorem wholeDays_ordered {p : Period} (ordered : p.start ≤ p.finish) :
    p.wholeDays.start < p.wholeDays.finish := by
  have forward := civilDay_mono ordered
  rw [Instant.lt_iff]
  simp only [wholeDays, civilLast, civilMidnight, Instant.perSecond]
  omega

end Period

/-! ## Beside a period -/

/-- Leave that is beside a period on a day that both have: it ends before the
period starts, or starts after the period ends. -/
def LeaveRequest.Beside (r : LeaveRequest) (p : Period) : Prop :=
  (civilDay r.finish.instant = civilDay p.start ∧
      r.finish.instant < p.start) ∨
    (civilDay r.start.instant = civilDay p.finish ∧
      p.finish < r.start.instant)

namespace LeaveRequest

variable {r : LeaveRequest} {p : Period}

/-- Of the leave that has a day in common with a period, the period meets all
that is not beside it. -/
theorem meets_iff_not_beside
    (overlaps : r.dayRange.overlaps p.dayRange = true) :
    p.meets r.start.instant r.finish.instant = true ↔ ¬ r.Beside p := by
  obtain ⟨before, after⟩ := DayRange.overlaps_iff_le.1 overlaps
  simp only [dayRange, Period.dayRange, DayRange.ofInstants] at before after
  rw [Period.meets_iff_le]
  constructor
  · rintro ⟨started, unfinished⟩ (⟨_, ended⟩ | ⟨_, ahead⟩)
    · exact Instant.not_le_iff.2 ended unfinished
    · exact Instant.not_le_iff.2 ahead started
  · -- Where a comparison fails, the order of days leaves only one for both.
    intro apart
    constructor
    · by_contra late
      have ahead := Instant.not_le_iff.1 late
      have days := civilDay_mono (Instant.le_of_lt ahead)
      exact apart (Or.inr ⟨by omega, ahead⟩)
    · by_contra early
      have ended := Instant.not_le_iff.1 early
      have days := civilDay_mono (Instant.le_of_lt ended)
      exact apart (Or.inl ⟨by omega, ended⟩)

/-- Leave that has a civil day in common with a period. -/
def SharesDay (r : LeaveRequest) (p : Period) : Prop :=
  ∃ day ∈ p.dayRange.civilDays, day ∈ r.civilDays

section Days

variable (spans : r.Spans) (forward : p.start ≤ p.finish)
include spans forward

theorem overlaps_iff_sharesDay :
    r.dayRange.overlaps p.dayRange = true ↔ r.SharesDay p :=
  DayRange.overlaps_iff spans.forward (DayRange.ofInstants_forward forward)

/-- Over whole days a list has the leave that shares a day. -/
theorem meets_wholeDays_iff :
    p.wholeDays.meets r.start.instant r.finish.instant = true ↔
      r.SharesDay p := by
  rw [Period.meets_wholeDays, ← overlaps_iff_sharesDay spans forward]
  rfl

/-- Over the hours it has what shares a day and is not beside them. -/
theorem meets_iff :
    p.meets r.start.instant r.finish.instant = true ↔
      r.SharesDay p ∧ ¬ r.Beside p := by
  rw [← overlaps_iff_sharesDay spans forward]
  constructor
  · intro meets
    obtain ⟨started, unfinished⟩ := Period.meets_iff_le.1 meets
    have overlaps : r.dayRange.overlaps p.dayRange = true :=
      DayRange.overlaps_iff_le.2
        ⟨civilDay_mono started, civilDay_mono unfinished⟩
    exact ⟨overlaps, (meets_iff_not_beside overlaps).1 meets⟩
  · rintro ⟨overlaps, apart⟩
    exact (meets_iff_not_beside overlaps).2 apart

end Days

/-- Leave that starts at midnight is not beside a period that does. -/
theorem not_beside_of_midnight (start : r.start.instant.IsMidnight)
    (periodStart : p.start.IsMidnight) : ¬ r.Beside p := by
  rintro (⟨same, ended⟩ | ⟨same, ahead⟩)
  · exact Instant.not_le_iff.2 ended (periodStart.le_of_civilDay_eq same)
  · exact Instant.not_le_iff.2 ahead (start.le_of_civilDay_eq same.symm)

end LeaveRequest

/-! ## Who sees the leave of an employee -/

/-- A list of somebody who is named is confined to them. -/
theorem ListPermissions.filter_some_eq_ok {p : ListPermissions} {a : Actor}
    {employee : String} {confined : Option String}
    (passed : p.filter a (some employee) = .ok confined) :
    confined = some employee := by
  unfold filter at passed
  split at passed
  · cases passed
    rfl
  · split at passed
    · split at passed
      · rename_i own
        cases passed
        exact congrArg some own.symm
      · exact absurd passed Outcome.refuse_ne_ok
    · split at passed
      · dsimp only at passed
        split at passed
        · exact absurd passed Outcome.refuse_ne_ok
        · cases passed
          rfl
      · exact absurd passed Outcome.refuse_ne_ok

/-- A caller who may list the leave of an employee, within a scope that leaves
none of it out. -/
structure Context.SeesLeave (ctx : Context) (st : Store) (employee : String)
    (actor : Actor) (scope : TenantScope) : Prop where
  authorized : ctx.authorize = .ok (actor, scope)
  permitted : ∃ confined,
    ListPermissions.leave.filter actor (some employee) = .ok confined
  owned : ∀ r ∈ st.leave.rows, r.employee = employee →
    scope.permits r.organization = true

/-- The list of an employee's leave over a period, in any state. -/
def Call.listLeaveOf (employee : String) (period : Period) : Call :=
  .listLeave ⟨period, some employee, none⟩

section Lists

variable {ctx : Context} {st : Store} {employee : String} {actor : Actor}
  {scope : TenantScope} {period : Period} {r : LeaveRequest}

theorem Store.mem_listLeave :
    r ∈ st.listLeave period ⟨scope.organization?, some employee⟩ none ↔
      r ∈ st.leave.rows ∧
        period.meets r.start.instant r.finish.instant = true ∧
          scope.permits r.organization = true ∧ r.employee = employee := by
  rw [listLeave, mem_sortBy, List.mem_filter, Bool.and_eq_true,
    Bool.and_eq_true, OwnerFilter.passes_iff, TenantScope.covers_iff,
    wanted_iff]
  simp

namespace Context.SeesLeave

/-- Whoever sees the leave of an employee gets what meets the period. -/
theorem perform_listLeaveOf (sees : ctx.SeesLeave st employee actor scope)
    (ordered : period.start < period.finish) (sinks : Sinks) :
    ∃ rs, ((Call.listLeaveOf employee period).perform ctx sinks st).1 =
        .ok (.leaves rs) ∧
      ∀ r, r ∈ rs ↔ r ∈ st.leave.rows ∧ r.employee = employee ∧
        period.meets r.start.instant r.finish.instant = true := by
  obtain ⟨confined, filtered⟩ := sees.permitted
  obtain rfl := ListPermissions.filter_some_eq_ok filtered
  have valid : Service.ensurePeriod period = .ok () :=
    Service.ensurePeriod_eq_ok.2 ordered
  have listed : Service.listLeave ctx st ⟨period, some employee, none⟩ =
      .ok (st.listLeave period ⟨scope.organization?, some employee⟩
        none) := by
    simp only [Service.listLeave, sees.authorized, Outcome.ok_bind, valid,
      filtered]
    rfl
  refine ⟨st.listLeave period ⟨scope.organization?, some employee⟩ none, ?_,
    ?_⟩
  · rw [Call.perform, Call.listLeaveOf, Call.effect, listed]
    rfl
  · intro r
    rw [Store.mem_listLeave]
    constructor
    · rintro ⟨kept, meets, _, own⟩
      exact ⟨kept, own, meets⟩
    · rintro ⟨kept, own, meets⟩
      exact ⟨kept, meets, sees.owned r kept own, own⟩

/-- Over the hours of a period the leave that is listed shares a day with it
and is not beside it. -/
theorem perform_byHours (sees : ctx.SeesLeave st employee actor scope)
    (law : LeaveApart st.leave) (ordered : period.start < period.finish)
    (sinks : Sinks) :
    ∃ rs, ((Call.listLeaveOf employee period).perform ctx sinks st).1 =
        .ok (.leaves rs) ∧
      ∀ r, r ∈ rs ↔ r ∈ st.leave.rows ∧ r.employee = employee ∧
        r.SharesDay period ∧ ¬ r.Beside period := by
  obtain ⟨rs, listed, members⟩ := sees.perform_listLeaveOf ordered sinks
  refine ⟨rs, listed, ?_⟩
  intro r
  rw [members]
  refine and_congr_right fun kept => and_congr_right fun _ => ?_
  exact LeaveRequest.meets_iff (law.spans r kept) (Instant.le_of_lt ordered)

/-- Over its whole days all leave is listed that shares one of them. -/
theorem perform_byDays (sees : ctx.SeesLeave st employee actor scope)
    (law : LeaveApart st.leave) (ordered : period.start < period.finish)
    (sinks : Sinks) :
    ∃ rs, ((Call.listLeaveOf employee period.wholeDays).perform ctx sinks
        st).1 = .ok (.leaves rs) ∧
      ∀ r, r ∈ rs ↔ r ∈ st.leave.rows ∧ r.employee = employee ∧
        r.SharesDay period := by
  have forward := Instant.le_of_lt ordered
  obtain ⟨rs, listed, members⟩ :=
    sees.perform_listLeaveOf (Period.wholeDays_ordered forward) sinks
  refine ⟨rs, listed, ?_⟩
  intro r
  rw [members]
  refine and_congr_right fun kept => and_congr_right fun _ => ?_
  exact LeaveRequest.meets_wholeDays_iff (law.spans r kept) forward

end Context.SeesLeave

end Lists

/-! ## Refused because of an overlap -/

/-- The hours of leave that is asked for. -/
def Service.NewLeave.hours (input : NewLeave) : Period :=
  ⟨input.start.instant, input.finish.instant⟩

/-- Leave that is refused because of an overlap has an active request of the
employee in its way. -/
theorem Call.exists_active_of_refused {ctx : Context} {st : Store}
    {sinks : Sinks} {input : Service.NewLeave}
    (refused : ((Call.createLeave input).perform ctx sinks st).1 =
      Outcome.refuse Service.overlapConflict) :
    ∃ r ∈ st.activeLeave input.employee,
      r.dayRange.overlaps input.hours.dayRange = true := by
  have answered : ((Call.createLeave input).effect ctx st).answered sinks =
      .error (.refused Service.overlapConflict) :=
    (Effect.record_reply _ sinks).symm.trans refused
  rcases Effect.error_of_answered answered with ⟨message, storage⟩ | failed
  · cases storage
  · obtain ⟨_, _, _, _, _, hindered⟩ :=
      Call.hindered_of_refused failed (by decide)
    cases hindered with
    | @createLeave input employee r found visible listed =>
        have named : employee.id = input.employee := Table.key_of_get? found
        rw [named] at listed
        obtain ⟨active, _, overlaps⟩ := Store.mem_overlappingLeave.1 listed
        exact ⟨r, active, overlaps⟩

/-- Leave is refused to somebody because of an overlap, in any store that can
be reached, and it was to end after it starts.  Whoever sees the leave of the
employee, in the same scope or in another, gets a list of it over the hours
that were asked for and one over their whole days.

The second list has an active request, and its active ones are those that share
a day with what was asked for.  The first one has of the second what is not
beside the hours.  So it has an active request exactly if one that shares a day
is not beside the hours; and it has one in any case if the leave that was asked
for starts at midnight, as all active leave of the employee does. -/
theorem overlap_in_lists {st : Store} (reachable : Reachable st)
    {ctx : Context} {sinks : Sinks} {input : Service.NewLeave}
    (refused : ((Call.createLeave input).perform ctx sinks st).1 =
      Outcome.refuse (.conflict "overlapping leave request exists"))
    (ordered : input.start.instant < input.finish.instant)
    {reader : Context} {actor : Actor} {scope : TenantScope}
    (sees : reader.SeesLeave st input.employee actor scope)
    (readerSinks : Sinks) :
    ∃ byHours byDays,
      ((Call.listLeaveOf input.employee input.hours).perform reader
        readerSinks st).1 = .ok (.leaves byHours) ∧
      ((Call.listLeaveOf input.employee input.hours.wholeDays).perform reader
        readerSinks st).1 = .ok (.leaves byDays) ∧
      (∃ r ∈ byDays, r.employee = input.employee ∧
        r.state.isActive = true) ∧
      (∀ r, r ∈ byDays ∧ r.state.isActive = true ↔
        r ∈ st.activeLeave input.employee ∧ r.SharesDay input.hours) ∧
      (∀ r, r ∈ byHours ↔ r ∈ byDays ∧ ¬ r.Beside input.hours) ∧
      ((∃ r ∈ byHours, r.employee = input.employee ∧
          r.state.isActive = true) ↔
        ∃ r ∈ st.activeLeave input.employee,
          r.SharesDay input.hours ∧ ¬ r.Beside input.hours) ∧
      (input.start.instant.IsMidnight →
        (∀ r ∈ st.activeLeave input.employee,
          r.start.instant.IsMidnight) →
        ∃ r ∈ byHours, r.employee = input.employee ∧
          r.state.isActive = true) := by
  have law := LeaveApart.of_reachable reachable
  have nonempty : input.hours.start < input.hours.finish := ordered
  obtain ⟨byHours, listedByHours, inHours⟩ :=
    sees.perform_byHours law nonempty readerSinks
  obtain ⟨byDays, listedByDays, inDays⟩ :=
    sees.perform_byDays law nonempty readerSinks
  obtain ⟨hindrance, active, overlaps⟩ := Call.exists_active_of_refused refused
  obtain ⟨kept, own, isActive⟩ := Store.mem_activeLeave.1 active
  have shares : hindrance.SharesDay input.hours :=
    (LeaveRequest.overlaps_iff_sharesDay (law.spans hindrance kept)
      (Instant.le_of_lt nonempty)).1 overlaps
  have shown : (∃ r ∈ byHours, r.employee = input.employee ∧
      r.state.isActive = true) ↔ ∃ r ∈ st.activeLeave input.employee,
        r.SharesDay input.hours ∧ ¬ r.Beside input.hours := by
    simp only [inHours, Store.mem_activeLeave]
    constructor
    · rintro ⟨r, ⟨kept, _, met⟩, own, active⟩
      exact ⟨r, ⟨kept, own, active⟩, met⟩
    · rintro ⟨r, ⟨kept, own, active⟩, met⟩
      exact ⟨r, ⟨kept, own, met⟩, own, active⟩
  refine ⟨byHours, byDays, listedByHours, listedByDays, ?_, ?_, ?_, shown, ?_⟩
  · exact ⟨hindrance, (inDays hindrance).2 ⟨kept, own, shares⟩, own, isActive⟩
  · intro r
    rw [inDays, Store.mem_activeLeave]
    tauto
  · intro r
    rw [inHours, inDays]
    tauto
  · intro midnight midnights
    have apart : ¬ hindrance.Beside input.hours :=
      LeaveRequest.not_beside_of_midnight (midnights hindrance active) midnight
    exact shown.2 ⟨hindrance, active, shares, apart⟩

/-!
## A morning on the second day

Somebody has asked for the 3rd and the 4th of March 2026, from midnight to
midnight.
-/

/-- The two days are asked for, each named by the midnight it begins with. -/
def askingDays : Step :=
  officeStep hiring.after "2"
    (.createLeave ⟨"emp-001", .annual, civilClock (civilMidnight 20515),
      civilClock (civilMidnight 20516), none⟩)

theorem run_askingDays : Run [askingDays, hiring] askingDays.after := by
  refine .step (.step .start ?_) ?_
  · exact ⟨rfl, rfl, rfl, rfl, rfl⟩
  · exact ⟨rfl, rfl, rfl, rfl, rfl⟩

/-- Leave from ten o'clock of the second day up to and with the following
midnight. -/
def lateMorning : Service.NewLeave :=
  ⟨"emp-001", .annual, (civilClock (civilMidnight 20516)).addMinutes 600,
    civilClock (civilMidnight 20517), none⟩

/-- Who asks for leave and lists it. -/
def holidaymaker : Actor :=
  { id := "emp-001", role := .employee, organization := none }

def holidayContext : Context :=
  { askingDays.ctx with actor := some holidaymaker }

theorem holidaymaker_sees :
    holidayContext.SeesLeave askingDays.after lateMorning.employee
      holidaymaker .everything where
  authorized := rfl
  permitted := ⟨_, rfl⟩
  owned := fun _ _ _ => rfl

/-- The reason for the refusal is found in a list over the whole of the days
that were asked for. -/
theorem overlap_in_list_of_wholeDays :
    Reachable askingDays.after ∧
    ((Call.createLeave lateMorning).perform holidayContext .working
        askingDays.after).1 =
      Outcome.refuse (.conflict "overlapping leave request exists") ∧
    lateMorning.start.instant < lateMorning.finish.instant ∧
    holidayContext.SeesLeave askingDays.after lateMorning.employee
      holidaymaker .everything ∧
    ∃ byDays, ((Call.listLeaveOf lateMorning.employee
        lateMorning.hours.wholeDays).perform holidayContext .working
          askingDays.after).1 = .ok (.leaves byDays) ∧
      ∃ r ∈ byDays, r.employee = lateMorning.employee ∧
        r.state.isActive = true := by
  have reachable : Reachable askingDays.after := ⟨_, run_askingDays⟩
  have refused : ((Call.createLeave lateMorning).perform holidayContext
      .working askingDays.after).1 =
      Outcome.refuse (.conflict "overlapping leave request exists") := rfl
  have ordered : lateMorning.start.instant < lateMorning.finish.instant := by
    decide
  obtain ⟨_, byDays, _, listed, reason, _⟩ := overlap_in_lists reachable
    refused ordered holidaymaker_sees .working
  exact ⟨reachable, refused, ordered, holidaymaker_sees, byDays, listed,
    reason⟩

/-- A list over the very hours that were refused has nothing: the request in
the way ends at the midnight with which its last day begins. -/
theorem overlap_in_no_list_of_lateMorning :
    Run [askingDays, hiring] askingDays.after ∧
    ((Call.createLeave lateMorning).perform holidayContext .working
        askingDays.after).1 =
      Outcome.refuse (.conflict "overlapping leave request exists") ∧
    lateMorning.start.instant < lateMorning.finish.instant ∧
    holidayContext.SeesLeave askingDays.after lateMorning.employee
      holidaymaker .everything ∧
    ((Call.listLeaveOf lateMorning.employee lateMorning.hours).perform
        holidayContext .working askingDays.after).1 = .ok (.leaves []) :=
  ⟨run_askingDays, rfl, by decide, holidaymaker_sees, rfl⟩

end Workforce
