import Mathlib.Data.Set.Basic
import Workforce.Proofs.Attendance.Split
import Workforce.Proofs.Run
import Workforce.Proofs.Sorting

/-!
# Nobody works two shifts at once

A shift is made of the instants from its start up to but without its end.
This module shows that distinct schedules of an employee have no instant in
common, whatever offsets they were written with:

* in every store that calls lead to, also when schedules were put into the
  store directly in between (`Rostered`);
* and that a shift which is asked for is refused exactly if it has an instant
  in common with a schedule of the employee.

A shift that is not refused is kept.  It is answered with if its minutes can be
divided, which is seen only then; else the call stops, and the shift stays
(`Service.Assigns.perform_of_unsplittable`).

Overlaps are looked for when a shift is asked for and again when it is kept,
both times by two comparisons.  These say what the instants say only of shifts
that end after they start.  The second statement therefore rests on the fact
that calls assign no others, and the first one does without it.
-/

namespace Workforce

/-! ## Instants of shifts -/

/-- The instants from `start` up to but without `finish`. -/
def Instant.span (start finish : Instant) : Set Instant :=
  {t | start ≤ t ∧ t < finish}

namespace Instant

theorem lt_of_common {start finish otherStart otherFinish t : Instant}
    (here : t ∈ span start finish) (there : t ∈ span otherStart otherFinish) :
    start < otherFinish := by
  have started : start.nanoseconds ≤ t.nanoseconds := here.1
  have unfinished : t.nanoseconds < otherFinish.nanoseconds := there.2
  rw [lt_iff]
  omega

/-- Spans that are not empty have an instant in common exactly if each starts
before the other ends. -/
theorem exists_common_iff {start finish otherStart otherFinish : Instant}
    (ordered : start < finish) (otherOrdered : otherStart < otherFinish) :
    (∃ t ∈ span start finish, t ∈ span otherStart otherFinish) ↔
      start < otherFinish ∧ otherStart < finish := by
  constructor
  · rintro ⟨t, here, there⟩
    exact ⟨lt_of_common here there, lt_of_common there here⟩
  · rintro ⟨before, after⟩
    rw [lt_iff] at ordered otherOrdered before after
    -- The later of the two starts lies in both.
    by_cases later : start.nanoseconds ≤ otherStart.nanoseconds
    · have started : start ≤ otherStart := later
      exact ⟨otherStart, ⟨started, after⟩,
        ⟨Int.le_refl otherStart.nanoseconds, otherOrdered⟩⟩
    · have started : otherStart ≤ start := by
        rw [le_iff]
        omega
      exact ⟨start, ⟨Int.le_refl start.nanoseconds, ordered⟩,
        ⟨started, before⟩⟩

end Instant

namespace WorkSchedule

/-- The instants of a shift. -/
def span (s : WorkSchedule) : Set Instant :=
  Instant.span s.start.instant s.finish.instant

theorem overlaps_iff {s : WorkSchedule} {start finish : Instant} :
    s.overlaps start finish = true ↔
      s.start.instant < finish ∧ start < s.finish.instant := by
  simp [overlaps]

theorem overlaps_comm (a b : WorkSchedule) :
    a.overlaps b.start.instant b.finish.instant =
      b.overlaps a.start.instant a.finish.instant :=
  Bool.and_comm _ _

/-- Two schedules that may be kept beside each other. -/
def Beside (a b : WorkSchedule) : Prop :=
  a.employee = b.employee →
    a.overlaps b.start.instant b.finish.instant = false

theorem Beside.symm {a b : WorkSchedule} (beside : a.Beside b) :
    b.Beside a := by
  intro same
  rw [overlaps_comm]
  exact beside same.symm

/-- Schedules that do not overlap have no instant in common. -/
theorem span_inter_eq_empty {a b : WorkSchedule}
    (apart : a.overlaps b.start.instant b.finish.instant = false) :
    a.span ∩ b.span = ∅ := by
  rw [Set.eq_empty_iff_forall_notMem]
  rintro t ⟨here, there⟩
  have overlaps : a.overlaps b.start.instant b.finish.instant = true :=
    overlaps_iff.2
      ⟨Instant.lt_of_common here there, Instant.lt_of_common there here⟩
  rw [apart] at overlaps
  cases overlaps

end WorkSchedule

/-! ## Schedules that are kept apart -/

/-- The law of schedules: no two of an employee overlap. -/
def ShiftsApart (t : Table WorkSchedule) : Prop :=
  ∀ a ∈ t.rows, ∀ b ∈ t.rows, a.id ≠ b.id → a.Beside b

/-- Every schedule ends after it starts. -/
def ShiftsForward (t : Table WorkSchedule) : Prop :=
  ∀ s ∈ t.rows, s.start.instant < s.finish.instant

namespace Store

theorem mem_overlappingSchedules {st : Store} {employee : String}
    {start finish : Instant} {s : WorkSchedule} :
    s ∈ st.overlappingSchedules employee start finish ↔
      s ∈ st.schedules.rows ∧ s.employee = employee ∧
        s.overlaps start finish = true := by
  rw [overlappingSchedules, mem_sortBy, List.mem_filter, Bool.and_eq_true,
    beq_iff_eq]

/-- A schedule that the store keeps is apart from the others. -/
theorem shiftsApart_put {st : Store} (law : ShiftsApart st.schedules)
    {s : WorkSchedule}
    (free : st.overlappingSchedules s.employee s.start.instant
      s.finish.instant = []) :
    ShiftsApart (st.schedules.put s) := by
  apply Table.pairwise_put WorkSchedule.Beside.symm law
  intro other kept _ same
  rw [← Bool.not_eq_true]
  intro overlaps
  have listed := mem_overlappingSchedules.2 ⟨kept, same, overlaps⟩
  rw [free] at listed
  cases listed

end Store

/-- A deed that assigns a shift has found it to end after it starts, and the
time to be free. -/
theorem Call.Does.schedule_cases {ctx : Context} {st : Store} {actor : Actor}
    {scope : TenantScope} {c : Call} {w : Write} {notice : Notice}
    {reply : Reply} (does : c.Does ctx st actor scope w notice reply) :
    w.schedule = none ∨ ∃ s, w.schedule = some s ∧
      s.start.instant < s.finish.instant ∧
      st.overlappingSchedules s.employee s.start.instant
        s.finish.instant = [] := by
  cases does with
  | createSchedule permitted ordered bounded found visible made free =>
      subst made
      exact Or.inr ⟨_, rfl, ordered, free⟩
  | _ =>
      exact Or.inl rfl

namespace Step

/-- A step leaves the schedules as they were, or puts in one that ends after
it starts and overlaps with none of its employee's. -/
theorem schedules_cases (s : Step) :
    s.after.schedules = s.before.schedules ∨
      ∃ shift, s.after.schedules = s.before.schedules.put shift ∧
        shift.start.instant < shift.finish.instant ∧
        s.before.overlappingSchedules shift.employee shift.start.instant
          shift.finish.instant = [] := by
  rcases s.after_cases with
    ⟨_, audit, events, left⟩ |
    ⟨actor, scope, w, notice, reply, audit, events, _, does, left⟩
  · rw [left]
    exact Or.inl rfl
  · have schedules : s.after.schedules =
        s.before.schedules.putAny w.schedule := by
      rw [left]
      rfl
    rw [schedules]
    rcases does.schedule_cases with none | ⟨shift, row, ordered, free⟩
    · rw [none]
      exact Or.inl rfl
    · rw [row]
      exact Or.inr ⟨shift, rfl, ordered, free⟩

theorem shiftsApart {s : Step} (law : ShiftsApart s.before.schedules) :
    ShiftsApart s.after.schedules := by
  rcases s.schedules_cases with same | ⟨shift, put, _, free⟩
  · rw [same]
    exact law
  · rw [put]
    exact Store.shiftsApart_put law free

theorem shiftsForward {s : Step} (law : ShiftsForward s.before.schedules) :
    ShiftsForward s.after.schedules := by
  rcases s.schedules_cases with same | ⟨shift, put, ordered, _⟩
  · rw [same]
    exact law
  · rw [put]
    intro other member
    rcases Table.mem_rows_put.1 member with rfl | ⟨kept, _⟩
    · exact ordered
    · exact law other kept

end Step

/-! ## Stores with schedules -/

/-- A store that calls lead to from the empty one while anybody may put
schedules into it directly.  An insertion that is refused leaves it as it
is. -/
inductive Rostered : Store → Prop
  | empty : Rostered Store.empty
  | step {s : Step} (rostered : Rostered s.before)
      (new : s.ctx.NewIds s.before) : Rostered s.after
  | insertion {st : Store} (rostered : Rostered st) (s : WorkSchedule) :
      Rostered (st.insertSchedule s).2

theorem Rostered.of_run {past : List Step} {st : Store}
    (run : Run past st) : Rostered st := by
  induction run with
  | start =>
      exact .empty
  | step run new inductionHypothesis =>
      exact .step inductionHypothesis new

theorem Rostered.shiftsApart {st : Store} (rostered : Rostered st) :
    ShiftsApart st.schedules := by
  induction rostered with
  | empty =>
      intro a member
      cases member
  | step rostered new inductionHypothesis =>
      exact Step.shiftsApart inductionHypothesis
  | @insertion st rostered s inductionHypothesis =>
      by_cases free : st.overlappingSchedules s.employee s.start.instant
          s.finish.instant = []
      · rw [Store.insertSchedule_of_free free]
        exact Store.shiftsApart_put inductionHypothesis free
      · have occupied : ¬ (st.overlappingSchedules s.employee s.start.instant
            s.finish.instant).isEmpty = true := by
          rw [List.isEmpty_iff]
          exact free
        rw [Store.insertSchedule, if_neg occupied]
        exact inductionHypothesis

theorem Run.shiftsForward {past : List Step} {st : Store}
    (run : Run past st) : ShiftsForward st.schedules := by
  induction run with
  | start =>
      intro s member
      cases member
  | step run new inductionHypothesis =>
      exact Step.shiftsForward inductionHypothesis

/-! ## When a shift is refused -/

namespace Service

/-- What is answered to a shift at a time that is not free. -/
def shiftConflict : Fault :=
  .conflict "overlapping schedule exists"

/-- A shift for an employee that passes all checks but the one for
overlaps. -/
structure Assigns (ctx : Context) (st : Store) (actor : Actor)
    (scope : TenantScope) (input : NewSchedule) (employee : Employee) :
    Prop where
  authorized : ctx.authorize = .ok (actor, scope)
  permitted : actor.may .scheduleWriteAny = true
  ordered : input.start.instant < input.finish.instant
  shortBreak : 0 ≤ input.breakMinutes ∧ input.breakMinutes ≤ 300
  shortNotes : ∀ notes, input.notes = some notes → notes.length ≤ 1000
  found : st.employees.get? input.employee = some employee
  visible : scope.permits employee.organization = true

end Service

/-- Whether a schedule of an employee has an instant of a span. -/
def Store.ShiftTaken (st : Store) (employee : String)
    (start finish : Instant) : Prop :=
  ∃ s ∈ st.schedules.rows, s.employee = employee ∧
    ∃ t ∈ Instant.span start finish, t ∈ s.span

/-- Where all shifts end after they start, schedules stand in the way of a
span exactly if it is taken. -/
theorem ShiftsForward.overlapping_iff {st : Store}
    (law : ShiftsForward st.schedules) (employee : String)
    {start finish : Instant} (ordered : start < finish) :
    st.overlappingSchedules employee start finish ≠ [] ↔
      st.ShiftTaken employee start finish := by
  have common : ∀ s ∈ st.schedules.rows,
      (s.overlaps start finish = true ↔
        ∃ t ∈ Instant.span start finish, t ∈ s.span) := by
    intro s kept
    rw [WorkSchedule.overlaps_iff, And.comm, WorkSchedule.span,
      Instant.exists_common_iff ordered (law s kept)]
  constructor
  · intro nonempty
    obtain ⟨s, listed⟩ := List.exists_mem_of_ne_nil _ nonempty
    obtain ⟨kept, own, overlaps⟩ := Store.mem_overlappingSchedules.1 listed
    exact ⟨s, kept, own, (common s kept).1 overlaps⟩
  · rintro ⟨s, kept, own, shared⟩ empty
    have listed := Store.mem_overlappingSchedules.2
      ⟨kept, own, (common s kept).2 shared⟩
    rw [empty] at listed
    cases listed

theorem ShiftsForward.free_iff {st : Store}
    (law : ShiftsForward st.schedules) (employee : String)
    {start finish : Instant} (ordered : start < finish) :
    st.overlappingSchedules employee start finish = [] ↔
      ¬ st.ShiftTaken employee start finish :=
  (not_iff_comm.1 (law.overlapping_iff employee ordered)).symm

namespace Service.Assigns

variable {ctx : Context} {st : Store} {actor : Actor} {scope : TenantScope}
  {input : NewSchedule} {employee : Employee}

/-- The last check of a shift is the one for overlaps. What passes it is kept,
and its minutes are divided. -/
theorem createSchedule_eq
    (assigns : Assigns ctx st actor scope input employee) :
    ∃ tell : WorkSchedule → PayableMinutes → Notice,
      createSchedule ctx st input =
      (Outcome.ensure (st.overlappingSchedules employee.id
          input.start.instant input.finish.instant).isEmpty shiftConflict >>=
        fun _ => .ok (.afterChange (st.insertSchedule
          (input.toSchedule (ctx.fresh .schedule) employee ctx.now))
            fun s => Outcome.ofAmount s.workInterval.split >>=
              fun planned => .ok (tell s planned))) := by
  have permitted : actor.require .scheduleWriteAny
      "schedule assignment requires permission" = .ok () :=
    Actor.require_eq_ok.2 assigns.permitted
  have notes : input.notes.all (fun s => decide (s.length ≤ 1000)) = true := by
    rw [Option.all_eq_true]
    intro notes given
    exact decide_eq_true (assigns.shortNotes notes given)
  have bounded : ensureBreakAndNotes input.breakMinutes input.notes =
      .ok () := by
    rw [ensureBreakAndNotes, Outcome.ensure_of assigns.shortBreak,
      Outcome.ok_bind, Outcome.ensure_of notes]
  have lookup : requireEmployee st scope input.employee = .ok employee :=
    TenantScope.visible_eq_ok.2 ⟨assigns.found, assigns.visible⟩
  have ordered : Outcome.ensure (input.start.instant < input.finish.instant)
      (.validation "endAt must be after startAt") = .ok () :=
    Outcome.ensure_of assigns.ordered
  simp only [createSchedule, assigns.authorized, Outcome.ok_bind, permitted,
    ordered, bounded, lookup]
  exact ⟨_, rfl⟩

theorem perform_of_taken
    (assigns : Assigns ctx st actor scope input employee)
    (taken : st.overlappingSchedules employee.id input.start.instant
      input.finish.instant ≠ []) (sinks : Sinks) :
    (Call.createSchedule input).perform ctx sinks st =
      (Outcome.refuse shiftConflict, st) := by
  obtain ⟨tell, checked⟩ := assigns.createSchedule_eq
  have occupied : ¬ (st.overlappingSchedules employee.id input.start.instant
      input.finish.instant).isEmpty = true := by
    rw [List.isEmpty_iff]
    exact taken
  have effect : (Call.createSchedule input).effect ctx st =
      Call.changing st (createSchedule ctx st input) .schedule :=
    rfl
  rw [checked, Outcome.ensure_of_not occupied] at effect
  rw [Call.perform, effect]
  rfl

/-- Where the time is free the shift is kept, and answered with if it can be
divided. -/
theorem effect_of_free
    (assigns : Assigns ctx st actor scope input employee)
    (free : st.overlappingSchedules employee.id input.start.instant
      input.finish.instant = []) :
    let s := input.toSchedule (ctx.fresh .schedule) employee ctx.now
    ∃ notice, (Call.createSchedule input).effect ctx st =
      if s.workInterval.Splittable then
        .told (st.write { schedule := some s }) notice (.schedule s)
      else
        .answer (st.write { schedule := some s })
          (.error (.overflow .instant)) := by
  intro s
  obtain ⟨tell, checked⟩ := assigns.createSchedule_eq
  have effect : (Call.createSchedule input).effect ctx st =
      Call.changing st (createSchedule ctx st input) .schedule :=
    rfl
  have kept := Store.insertSchedule_of_free (s := s) free
  rw [checked, Outcome.ensure_of (List.isEmpty_iff.2 free), Outcome.ok_bind,
    kept] at effect
  refine ⟨tell s s.workInterval.minutes, effect.trans ?_⟩
  simp only [Effect.afterChange, s.workInterval.split_eq]
  by_cases divided : s.workInterval.Splittable
  · rw [if_pos divided, if_pos divided]
    rfl
  · rw [if_neg divided, if_neg divided]
    rfl

theorem schedules_of_free
    (assigns : Assigns ctx st actor scope input employee)
    (free : st.overlappingSchedules employee.id input.start.instant
      input.finish.instant = []) (sinks : Sinks) :
    ((Call.createSchedule input).perform ctx sinks st).2.schedules =
      st.schedules.put
        (input.toSchedule (ctx.fresh .schedule) employee ctx.now) := by
  obtain ⟨notice, effect⟩ := assigns.effect_of_free free
  rw [Call.perform, Effect.record_store, effect]
  split
  · rfl
  · rfl

theorem perform_of_free
    (assigns : Assigns ctx st actor scope input employee)
    (free : st.overlappingSchedules employee.id input.start.instant
      input.finish.instant = [])
    (divided : (input.toSchedule (ctx.fresh .schedule) employee
      ctx.now).workInterval.Splittable) :
    ((Call.createSchedule input).perform ctx .working st).1 =
      .ok (.schedule
        (input.toSchedule (ctx.fresh .schedule) employee ctx.now)) := by
  obtain ⟨notice, effect⟩ := assigns.effect_of_free free
  rw [Call.perform, Effect.record_reply, Effect.answered_of_working, effect,
    if_pos divided]
  rfl

/-- A shift that cannot be divided is kept, but neither answered with nor told
of. -/
theorem perform_of_unsplittable
    (assigns : Assigns ctx st actor scope input employee)
    (free : st.overlappingSchedules employee.id input.start.instant
      input.finish.instant = [])
    (sinks : Sinks) :
    let s := input.toSchedule (ctx.fresh .schedule) employee ctx.now
    ¬ s.workInterval.Splittable →
      (Call.createSchedule input).perform ctx sinks st =
        (.error (.overflow .instant),
          st.write { schedule := some s }) := by
  intro s beyond
  obtain ⟨notice, effect⟩ := assigns.effect_of_free free
  rw [Call.perform, effect, if_neg beyond]
  rfl

end Service.Assigns

/-- The schedules of an employee have no instant in common, in whatever order
calls and direct insertions brought them.  Stores that are reached by calls are
among these, and all their shifts end after they start.  Where all shifts do, a
valid and permitted shift is kept exactly if no schedule of the employee has
one of its instants, and is otherwise refused without a trace.  One that is
kept is answered with exactly if it can be divided, as any shift can that begins
a day before the end of the time that is kept; otherwise the call stops with an
overflow, and the shift stays. -/
theorem shifts_apart_of_rostered (st : Store) :
    (Rostered st → ∀ a ∈ st.schedules.rows, ∀ b ∈ st.schedules.rows,
      a ≠ b → a.employee = b.employee → a.span ∩ b.span = ∅) ∧
    (Reachable st → Rostered st ∧ ShiftsForward st.schedules) ∧
    (ShiftsForward st.schedules → ∀ ctx actor scope input employee,
      Service.Assigns ctx st actor scope input employee →
        let s := input.toSchedule (ctx.fresh .schedule) employee ctx.now
        let taken := st.ShiftTaken employee.id input.start.instant
          input.finish.instant
        let answer := ((Call.createSchedule input).perform ctx .working st).1
        ((∃ reply, answer = .ok reply) ↔
          ¬ taken ∧ s.workInterval.Splittable) ∧
        (¬ taken → s.workInterval.Splittable →
          answer = .ok (.schedule s)) ∧
        (¬ taken → ∀ sinks,
          ((Call.createSchedule input).perform ctx sinks st).2.schedules =
            st.schedules.put s) ∧
        (¬ taken → ¬ s.workInterval.Splittable → ∀ sinks,
          (Call.createSchedule input).perform ctx sinks st =
            (.error (.overflow .instant),
              st.write { schedule := some s })) ∧
        (taken → ∀ sinks, (Call.createSchedule input).perform ctx sinks st =
          (Outcome.refuse Service.shiftConflict, st)) ∧
        (input.start.instant.addMinutes 1440 ≤ Instant.latest →
          s.workInterval.Splittable)) := by
  refine ⟨?_, ?_, ?_⟩
  · intro rostered a memberA b memberB distinct same
    have otherId : a.id ≠ b.id := by
      intro sameId
      have foundB := Table.mem_rows_iff.1 memberB
      rw [show Keyed.key b = Keyed.key a from sameId.symm,
        Table.mem_rows_iff.1 memberA] at foundB
      exact distinct (Option.some.inj foundB)
    have law := rostered.shiftsApart
    have apart := law a memberA b memberB otherId same
    exact WorkSchedule.span_inter_eq_empty apart
  · rintro ⟨past, run⟩
    exact ⟨Rostered.of_run run, run.shiftsForward⟩
  · intro forward ctx actor scope input employee assigns s taken answer
    have occupied := forward.overlapping_iff employee.id assigns.ordered
    have free := (forward.free_iff employee.id assigns.ordered).2
    refine ⟨⟨?_, ?_⟩, ?_, ?_, ?_, ?_,
      fun early => WorkInterval.splittable_of_early early⟩
    · rintro ⟨reply, assigned⟩
      have untaken : ¬ taken := by
        intro already
        have refused := assigns.perform_of_taken (occupied.2 already) .working
        rw [show answer = _ from congrArg Prod.fst refused] at assigned
        cases assigned
      refine ⟨untaken, ?_⟩
      by_contra beyond
      have halted :=
        assigns.perform_of_unsplittable (free untaken) .working beyond
      rw [show answer = _ from congrArg Prod.fst halted] at assigned
      cases assigned
    · rintro ⟨untaken, divided⟩
      exact ⟨_, assigns.perform_of_free (free untaken) divided⟩
    · intro untaken divided
      exact assigns.perform_of_free (free untaken) divided
    · intro untaken sinks
      exact assigns.schedules_of_free (free untaken) sinks
    · intro untaken beyond sinks
      exact assigns.perform_of_unsplittable (free untaken) sinks beyond
    · intro already sinks
      exact assigns.perform_of_taken (occupied.2 already) sinks

/-! ## Shifts of a day -/

/-- An hour of the first day of 1970, as a clock nine hours ahead of UTC shows
it. -/
def seoulHour (hour : Int) : ZonedTime :=
  ⟨⟨(hour - 9) * 60 * Instant.perMinute⟩, 540, by decide⟩

def shiftOf (start finish : ZonedTime) (isHoliday : Bool) :
    Service.NewSchedule :=
  ⟨"emp-001", start, finish, 0, isHoliday, none⟩

/-- A shift from nine to five of a holiday is assigned. -/
def assigning : Step :=
  officeStep hiring.after "2"
    (.createSchedule (shiftOf (seoulHour 9) (seoulHour 17) true))

/-- A shift that goes on when that one is over, by a clock that shows UTC. -/
def eveningShift : WorkSchedule :=
  { id := "WS-9"
    employee := "emp-001"
    organization := none
    start := .ofInstant (seoulHour 17).instant
    finish := .ofInstant (seoulHour 20).instant
    breakMinutes := 0
    isHoliday := false
    notes := none
    createdAt := ⟨0⟩ }

theorem run_assigning : Run [assigning, hiring] assigning.after := by
  refine .step (.step .start ?_) ?_
  · exact ⟨rfl, rfl, rfl, rfl, rfl⟩
  · exact ⟨rfl, rfl, rfl, rfl, rfl⟩

theorem assigns_shiftOf {st : Store}
    (found : st.employees.get? "emp-001" = some hired)
    {start finish : ZonedTime} (ordered : start.instant < finish.instant) :
    Service.Assigns assigning.ctx st
      { id := "adm-001", role := .admin, organization := none } .everything
      (shiftOf start finish false) hired where
  authorized := rfl
  permitted := by decide
  ordered := ordered
  shortBreak := by
    show (0 : Int) ≤ 0 ∧ (0 : Int) ≤ 300
    decide
  shortNotes := nofun
  found := found
  visible := rfl

/-- So long before the time that is kept is over. -/
def beforeTheEnd (seconds : Int) : ZonedTime :=
  .ofInstant ⟨Instant.latest.nanoseconds + 1 - seconds * Instant.perSecond⟩

/-- When a shift is over another may be put in directly, or be assigned; one
that starts in its last hour is refused.  One of the last two minutes that are
kept is assigned, but not answered with. -/
theorem shifts_around_assigning :
    let evening := shiftOf (seoulHour 17) (seoulHour 20) false
    let tooEarly := shiftOf (seoulHour 16) (seoulHour 20) false
    let last := shiftOf (beforeTheEnd 90) (beforeTheEnd 1) false
    (∃ st, Rostered st ∧ ∃ a ∈ st.schedules.rows, a ≠ eveningShift ∧
      eveningShift ∈ st.schedules.rows ∧
      a.span ∩ eveningShift.span = ∅) ∧
    ((Call.createSchedule evening).perform assigning.ctx .working
      assigning.after).1 = .ok (.schedule (evening.toSchedule "2" hired ⟨0⟩)) ∧
    (Call.createSchedule tooEarly).perform assigning.ctx .working
      assigning.after =
        (Outcome.refuse Service.shiftConflict, assigning.after) ∧
    (Call.createSchedule last).perform assigning.ctx .working
      assigning.after =
        (.error (.overflow .instant), assigning.after.write
          { schedule := some (last.toSchedule "2" hired ⟨0⟩) }) := by
  intro evening tooEarly last
  obtain ⟨_, reached, assigned⟩ := shifts_apart_of_rostered assigning.after
  obtain ⟨rostered, forward⟩ := reached ⟨[assigning, hiring], run_assigning⟩
  have found : assigning.after.employees.get? "emp-001" = some hired := by
    decide
  have eveningOrdered : (seoulHour 17).instant < (seoulHour 20).instant := by
    decide
  have earlyOrdered : (seoulHour 16).instant < (seoulHour 20).instant := by
    decide
  have lastOrdered :
      (beforeTheEnd 90).instant < (beforeTheEnd 1).instant := by
    decide
  refine ⟨⟨_, rostered.insertion eveningShift, ?_⟩, ?_, ?_, ?_⟩
  · obtain ⟨a, kept, other, own, inserted⟩ :
        ∃ a ∈ (assigning.after.insertSchedule eveningShift).2.schedules.rows,
          a ≠ eveningShift ∧ a.employee = eveningShift.employee ∧
          eveningShift ∈
            (assigning.after.insertSchedule eveningShift).2.schedules.rows := by
      decide
    have apart := (shifts_apart_of_rostered _).1
      (rostered.insertion eveningShift)
    exact ⟨a, kept, other, inserted, apart a kept _ inserted other own⟩
  · have free : assigning.after.overlappingSchedules "emp-001"
        (seoulHour 17).instant (seoulHour 20).instant = [] := by
      decide
    have untaken := (forward.free_iff "emp-001" eveningOrdered).1 free
    obtain ⟨_, answered, _, _, _, early⟩ :=
      assigned forward _ _ _ _ _ (assigns_shiftOf found eveningOrdered)
    exact answered untaken (early (by decide))
  · have occupied : assigning.after.overlappingSchedules "emp-001"
        (seoulHour 16).instant (seoulHour 20).instant ≠ [] := by
      decide
    have taken := (forward.overlapping_iff "emp-001" earlyOrdered).1 occupied
    obtain ⟨_, _, _, _, refused, _⟩ :=
      assigned forward _ _ _ _ _ (assigns_shiftOf found earlyOrdered)
    exact refused taken .working
  · have free : assigning.after.overlappingSchedules "emp-001"
        (beforeTheEnd 90).instant (beforeTheEnd 1).instant = [] := by
      decide
    have untaken := (forward.free_iff "emp-001" lastOrdered).1 free
    obtain ⟨_, _, _, halted, _, _⟩ :=
      assigned forward _ _ _ _ _ (assigns_shiftOf found lastOrdered)
    exact halted untaken (by decide) .working

/-- Nobody else has a shift, nor has the employee; so nothing speaks against
one of the last two minutes.  Yet the call that assigns it neither succeeds nor
leaves the schedules as they were. -/
theorem shift_of_lastMinutes :
    Reachable hiring.after ∧
      Service.Assigns assigning.ctx hiring.after
        { id := "adm-001", role := .admin, organization := none } .everything
        (shiftOf (beforeTheEnd 90) (beforeTheEnd 1) false) hired ∧
      hiring.after.schedules.rows = [] ∧
      let left := (Call.createSchedule (shiftOf (beforeTheEnd 90)
        (beforeTheEnd 1) false)).perform assigning.ctx .working hiring.after
      left.1 = .error (.overflow .instant) ∧
        left.2.schedules.rows ≠ hiring.after.schedules.rows := by
  have reached : Run [hiring] hiring.after :=
    .step .start ⟨rfl, rfl, rfl, rfl, rfl⟩
  refine ⟨⟨_, reached⟩, assigns_shiftOf rfl (by decide), rfl, rfl, ?_⟩
  decide

end Workforce
