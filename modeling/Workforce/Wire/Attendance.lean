import Workforce.Attendance.Record
import Workforce.Schedule
import Workforce.Wire.Basic

/-!
The wire form of shifts, minutes, attendance records and schedules.
-/

namespace Workforce.Wire

instance : Wire PayableMinutes where
  encode m := .obj
    [("regular", encode m.regular), ("overtime", encode m.overtime),
      ("night", encode m.night), ("holiday", encode m.holiday)]
  decode j := do
    let ms ← members? ["regular", "overtime", "night", "holiday"] 4 j
    return {
      regular := ← required ms "regular"
      overtime := ← required ms "overtime"
      night := ← required ms "night"
      holiday := ← required ms "holiday" }

instance : Wire WorkInterval where
  encode w := .obj
    [("check_in_at", encode w.checkIn), ("check_out_at", encode w.checkOut),
      ("break_minutes", encode w.breakMinutes),
      ("is_holiday", encode w.isHoliday)]
  decode j := do
    let ms ← members?
      ["check_in_at", "check_out_at", "break_minutes", "is_holiday"] 4 j
    return {
      checkIn := ← required ms "check_in_at"
      checkOut := ← required ms "check_out_at"
      breakMinutes := ← required ms "break_minutes"
      isHoliday := ← required ms "is_holiday" }

instance : Wire AttendanceRecord where
  encode r := .obj
    [("id", encode r.id), ("employee_id", encode r.employee),
      ("organization_id", encode r.organization),
      ("check_in_at", encode r.checkIn), ("check_out_at", encode r.checkOut),
      ("break_minutes", encode r.breakMinutes),
      ("is_holiday", encode r.isHoliday), ("notes", encode r.notes),
      ("state", encode r.state), ("approved_at", encode r.approvedAt),
      ("approved_by", encode r.approvedBy),
      ("created_at", encode r.createdAt), ("updated_at", encode r.updatedAt)]
  decode j := do
    let ms ← members?
      ["id", "employee_id", "organization_id", "check_in_at", "check_out_at",
        "break_minutes", "is_holiday", "notes", "state", "approved_at",
        "approved_by", "created_at", "updated_at"] 13 j
    return {
      id := ← required ms "id"
      employee := ← required ms "employee_id"
      organization := ← optional ms "organization_id"
      checkIn := ← required ms "check_in_at"
      checkOut := ← optional ms "check_out_at"
      breakMinutes := ← required ms "break_minutes"
      isHoliday := ← required ms "is_holiday"
      notes := ← optional ms "notes"
      state := ← required ms "state"
      approvedAt := ← optional ms "approved_at"
      approvedBy := ← optional ms "approved_by"
      createdAt := ← required ms "created_at"
      updatedAt := ← required ms "updated_at" }

/-- The wire form of the totals of an employee's attendance. -/
def encodeAggregate (a : AttendanceAggregate) : Json := .obj
  [("employee_id", encode a.employee), ("record_count", encode a.recordCount),
    ("totals", encode a.totals)]

instance : Wire WorkSchedule where
  encode s := .obj
    [("id", encode s.id), ("employee_id", encode s.employee),
      ("organization_id", encode s.organization),
      ("start_at", encode s.start), ("end_at", encode s.finish),
      ("break_minutes", encode s.breakMinutes),
      ("is_holiday", encode s.isHoliday), ("notes", encode s.notes),
      ("created_at", encode s.createdAt)]
  decode j := do
    let ms ← members?
      ["id", "employee_id", "organization_id", "start_at", "end_at",
        "break_minutes", "is_holiday", "notes", "created_at"] 9 j
    return {
      id := ← required ms "id"
      employee := ← required ms "employee_id"
      organization := ← optional ms "organization_id"
      start := ← required ms "start_at"
      finish := ← required ms "end_at"
      breakMinutes := ← required ms "break_minutes"
      isHoliday := ← required ms "is_holiday"
      notes := ← optional ms "notes"
      createdAt := ← required ms "created_at" }

end Workforce.Wire
