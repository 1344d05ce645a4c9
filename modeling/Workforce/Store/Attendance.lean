import Workforce.Store.Basic

/-!
Keeping attendance records and schedules.
-/

namespace Workforce.Store

/-! ## Attendance records -/

/-- Keeps a record, in the place of one with its id. -/
def insertRecord (st : Store) (r : AttendanceRecord) : Store :=
  { st with attendance := st.attendance.put r }

/-- Replaces a record that is kept and pending. -/
def updatePendingRecord (st : Store) (r : AttendanceRecord) :
    Outcome AttendanceRecord × Store :=
  if (st.attendance.get? r.id).any (·.state == .pending) then
    (.ok r, st.insertRecord r)
  else
    (Outcome.refuse
      (.conflict "only pending attendance record can be changed"), st)

/-- The records that are checked in within a period, by check-in and id. -/
def listRecords (st : Store) (period : Period) (owner : OwnerFilter)
    (state : Option AttendanceState) : List AttendanceRecord :=
  sortBy (byTime (·.checkIn.instant)) <| st.attendance.rows.filter fun r =>
    wanted state r.state && period.holds r.checkIn.instant &&
      owner.passes r.organization r.employee

/-! ## Schedules -/

/-- The schedules of an employee that overlap a span, by start and id. -/
def overlappingSchedules (st : Store) (employee : String)
    (start finish : Instant) : List WorkSchedule :=
  sortBy (byTime (·.start.instant)) <| st.schedules.rows.filter fun s =>
    s.employee == employee && s.overlaps start finish

/-- Keeps a schedule that overlaps none of its employee's. -/
def insertSchedule (st : Store) (s : WorkSchedule) :
    Outcome WorkSchedule × Store :=
  if (st.overlappingSchedules s.employee s.start.instant
      s.finish.instant).isEmpty then
    (.ok s, { st with schedules := st.schedules.put s })
  else
    (Outcome.refuse (.conflict "overlapping schedule exists"), st)

/-- The schedules that meet a period, by start and id. -/
def listSchedules (st : Store) (period : Period) (owner : OwnerFilter) :
    List WorkSchedule :=
  sortBy (byTime (·.start.instant)) <| st.schedules.rows.filter fun s =>
    period.meets s.start.instant s.finish.instant &&
      owner.passes s.organization s.employee

end Workforce.Store
