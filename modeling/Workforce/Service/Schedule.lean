import Workforce.Service.Context
import Workforce.Store.Attendance
import Workforce.Wire.Attendance

/-!
Operations on work schedules.
-/

namespace Workforce.Service

open Wire

/-- A shift to be assigned. -/
structure NewSchedule where
  employee : String
  start : ZonedTime
  finish : ZonedTime
  breakMinutes : Int
  isHoliday : Bool
  notes : Option String
deriving DecidableEq, Repr

/-- Which schedules to list. -/
structure ScheduleQuery where
  period : Period
  employee : Option String
deriving DecidableEq, Repr

/-- A new schedule of an employee. -/
def NewSchedule.toSchedule (s : NewSchedule) (id : String)
    (employee : Employee) (now : Instant) : WorkSchedule :=
  { id
    employee := employee.id
    organization := employee.organization
    start := s.start
    finish := s.finish
    breakMinutes := s.breakMinutes
    isHoliday := s.isHoliday
    notes := s.notes
    createdAt := now }

/-- Assigns a shift to an employee. The minutes of the shift, which are told,
are divided only after the schedule is kept. -/
def createSchedule (ctx : Context) (st : Store) (input : NewSchedule) :
    Outcome (Effect WorkSchedule) := do
  let (actor, scope) ← ctx.authorize
  actor.require .scheduleWriteAny "schedule assignment requires permission"
  Outcome.ensure (input.start.instant < input.finish.instant)
    (.validation "endAt must be after startAt")
  ensureBreakAndNotes input.breakMinutes input.notes
  let employee ← requireEmployee st scope input.employee
  let overlapping := st.overlappingSchedules employee.id input.start.instant
    input.finish.instant
  Outcome.ensure overlapping.isEmpty (.conflict "overlapping schedule exists")
  let s := input.toSchedule (ctx.fresh .schedule) employee ctx.now
  let payload (s : WorkSchedule) (planned : PayableMinutes) : Json := .obj
    [("employeeId", encode s.employee), ("startAt", encode s.start),
      ("endAt", encode s.finish), ("breakMinutes", encode s.breakMinutes),
      ("isHoliday", encode s.isHoliday), ("notes", encode s.notes),
      ("plannedMinutes", encode planned)]
  return .afterChange (st.insertSchedule s) fun s => do
    let planned ← Outcome.ofAmount s.workInterval.split
    return ctx.notice actor .scheduleAssigned (some s.id) s.organization
      (some (payload s planned))

/-- The schedules that meet a period. -/
def listSchedules (ctx : Context) (st : Store) (query : ScheduleQuery) :
    Outcome (List WorkSchedule) := do
  let (actor, scope) ← ctx.authorize
  ensurePeriod query.period
  if let some id := query.employee then
    if !scope.isEverything then
      let _ ← requireEmployee st scope id
  let employee ← ListPermissions.schedules.filter actor query.employee
  return st.listSchedules query.period ⟨scope.organization?, employee⟩

end Workforce.Service
