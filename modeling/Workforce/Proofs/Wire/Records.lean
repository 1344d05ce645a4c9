import Workforce.Proofs.Wire.Faithful
import Workforce.Wire.Activity
import Workforce.Wire.Attendance
import Workforce.Wire.Leave
import Workforce.Wire.People

/-!
# Records are read back

Each record gives back what its fields give back.  A record fits if its fields
do; only those are named that may fail to.  It is one object deeper than the
deepest of them.
-/

namespace Workforce.Wire

open Text

/-! ## Names -/

instance : Telling Role := ⟨fun a => by cases a <;> rfl⟩

instance : Telling AttendanceState := ⟨fun a => by cases a <;> rfl⟩

instance : Telling LeaveKind := ⟨fun a => by cases a <;> rfl⟩

instance : Telling LeaveState := ⟨fun a => by cases a <;> rfl⟩

instance : Telling LeaveAction := ⟨fun a => by cases a <;> rfl⟩

/-! ## People -/

-- Decoding takes the members of an object and then field after field; each
-- `rfl` finds that what stands under the name of a field was written for it.
instance : Faithful Actor where
  Fits _ := True
  nesting _ := 1
  decode_encode a _ :=
    read_then rfl <| keep a.id trivial rfl <| keep a.role trivial rfl <|
      keep a.organization (fits_text _) rfl rfl
  readable a _ _ within := .record within rfl fun _ _ =>
    ⟨flat a.id trivial, flat a.role trivial, flat a.organization (fits_text _)⟩

instance : Exact Actor := ⟨fun _ => trivial⟩

instance : Faithful Organization where
  Fits o := Fits o.createdAt
  nesting _ := 1
  decode_encode o createdAt :=
    read_then rfl <| keep o.id trivial rfl <| keep o.name trivial rfl <|
      keep o.createdAt createdAt rfl rfl
  readable o createdAt _ within := .record within rfl fun _ _ =>
    ⟨flat o.id trivial, flat o.name trivial, flat o.createdAt createdAt⟩

instance : Exact Organization := ⟨fun _ => trivial⟩

instance : Faithful Employee where
  Fits e := Fits e.createdAt ∧ Fits e.updatedAt
  nesting _ := 1
  decode_encode e fits := by
    obtain ⟨createdAt, updatedAt⟩ := fits
    exact read_then rfl <| keep e.id trivial rfl <|
      keep e.organization (fits_text _) rfl <| keep e.name (fits_text _) rfl <|
      keep e.email (fits_text _) rfl <| keep e.active trivial rfl <|
      keep e.createdAt createdAt rfl <| keep e.updatedAt updatedAt rfl rfl
  readable e fits n within := by
    obtain ⟨createdAt, updatedAt⟩ := fits
    exact .record within rfl fun _ _ =>
      ⟨flat e.id trivial, flat e.organization (fits_text _),
        flat e.name (fits_text _), flat e.email (fits_text _),
        flat e.active trivial, flat e.createdAt createdAt,
        flat e.updatedAt updatedAt⟩

instance : Exact Employee := ⟨fun _ => trivial⟩

/-! ## Attendance -/

instance : Faithful PayableMinutes where
  Fits m := Fits m.regular ∧ Fits m.overtime ∧ Fits m.night ∧ Fits m.holiday
  nesting _ := 1
  decode_encode m fits := by
    obtain ⟨regular, overtime, night, holiday⟩ := fits
    exact read_then rfl <| keep m.regular regular rfl <|
      keep m.overtime overtime rfl <| keep m.night night rfl <|
      keep m.holiday holiday rfl rfl
  readable m fits n within := by
    obtain ⟨regular, overtime, night, holiday⟩ := fits
    exact .record within rfl fun _ _ =>
      ⟨flat m.regular regular, flat m.overtime overtime, flat m.night night,
        flat m.holiday holiday⟩

instance : Exact PayableMinutes := ⟨fun _ => trivial⟩

instance : Faithful WorkInterval where
  Fits w := Fits w.checkIn ∧ Fits w.checkOut ∧ Fits w.breakMinutes
  nesting _ := 1
  decode_encode w fits := by
    obtain ⟨checkIn, checkOut, breakMinutes⟩ := fits
    exact read_then rfl <| keep w.checkIn checkIn rfl <|
      keep w.checkOut checkOut rfl <| keep w.breakMinutes breakMinutes rfl <|
      keep w.isHoliday trivial rfl rfl
  readable w fits n within := by
    obtain ⟨checkIn, checkOut, breakMinutes⟩ := fits
    exact .record within rfl fun _ _ =>
      ⟨flat w.checkIn checkIn, flat w.checkOut checkOut,
        flat w.breakMinutes breakMinutes, flat w.isHoliday trivial⟩

instance : Exact WorkInterval := ⟨fun _ => trivial⟩

instance : Faithful AttendanceRecord where
  Fits r := Fits r.checkIn ∧ Fits r.checkOut ∧ Fits r.breakMinutes ∧
    Fits r.approvedAt ∧ Fits r.createdAt ∧ Fits r.updatedAt
  nesting _ := 1
  decode_encode r fits := by
    obtain ⟨checkIn, checkOut, breakMinutes, approvedAt, createdAt,
      updatedAt⟩ := fits
    exact read_then rfl <| keep r.id trivial rfl <|
      keep r.employee trivial rfl <| keep r.organization (fits_text _) rfl <|
      keep r.checkIn checkIn rfl <| keep r.checkOut checkOut rfl <|
      keep r.breakMinutes breakMinutes rfl <| keep r.isHoliday trivial rfl <|
      keep r.notes (fits_text _) rfl <| keep r.state trivial rfl <|
      keep r.approvedAt approvedAt rfl <|
      keep r.approvedBy (fits_text _) rfl <| keep r.createdAt createdAt rfl <|
      keep r.updatedAt updatedAt rfl rfl
  readable r fits n within := by
    obtain ⟨checkIn, checkOut, breakMinutes, approvedAt, createdAt,
      updatedAt⟩ := fits
    exact .record within rfl fun _ _ =>
      ⟨flat r.id trivial, flat r.employee trivial,
        flat r.organization (fits_text _), flat r.checkIn checkIn,
        flat r.checkOut checkOut, flat r.breakMinutes breakMinutes,
        flat r.isHoliday trivial, flat r.notes (fits_text _),
        flat r.state trivial, flat r.approvedAt approvedAt,
        flat r.approvedBy (fits_text _), flat r.createdAt createdAt,
        flat r.updatedAt updatedAt⟩

instance : Exact AttendanceRecord := ⟨fun _ => trivial⟩

instance : Faithful WorkSchedule where
  Fits s := Fits s.start ∧ Fits s.finish ∧ Fits s.breakMinutes ∧
    Fits s.createdAt
  nesting _ := 1
  decode_encode s fits := by
    obtain ⟨start, finish, breakMinutes, createdAt⟩ := fits
    exact read_then rfl <| keep s.id trivial rfl <|
      keep s.employee trivial rfl <| keep s.organization (fits_text _) rfl <|
      keep s.start start rfl <| keep s.finish finish rfl <|
      keep s.breakMinutes breakMinutes rfl <| keep s.isHoliday trivial rfl <|
      keep s.notes (fits_text _) rfl <| keep s.createdAt createdAt rfl rfl
  readable s fits n within := by
    obtain ⟨start, finish, breakMinutes, createdAt⟩ := fits
    exact .record within rfl fun _ _ =>
      ⟨flat s.id trivial, flat s.employee trivial,
        flat s.organization (fits_text _), flat s.start start,
        flat s.finish finish, flat s.breakMinutes breakMinutes,
        flat s.isHoliday trivial, flat s.notes (fits_text _),
        flat s.createdAt createdAt⟩

instance : Exact WorkSchedule := ⟨fun _ => trivial⟩

/-! ## Leave -/

instance : Faithful LeaveRequest where
  Fits r := Fits r.start ∧ Fits r.finish ∧ Fits r.days ∧ Fits r.decidedAt ∧
    Fits r.createdAt ∧ Fits r.updatedAt
  nesting _ := 1
  decode_encode r fits := by
    obtain ⟨start, finish, days, decidedAt, createdAt, updatedAt⟩ := fits
    exact read_then rfl <| keep r.id trivial rfl <|
      keep r.employee trivial rfl <| keep r.organization (fits_text _) rfl <|
      keep r.kind trivial rfl <| keep r.start start rfl <|
      keep r.finish finish rfl <| keep r.days days rfl <|
      keep r.reason (fits_text _) rfl <| keep r.state trivial rfl <|
      keep r.decisionReason (fits_text _) rfl <|
      keep r.decidedBy (fits_text _) rfl <| keep r.decidedAt decidedAt rfl <|
      keep r.createdAt createdAt rfl <| keep r.updatedAt updatedAt rfl rfl
  readable r fits n within := by
    obtain ⟨start, finish, days, decidedAt, createdAt, updatedAt⟩ := fits
    exact .record within rfl fun _ _ =>
      ⟨flat r.id trivial, flat r.employee trivial,
        flat r.organization (fits_text _), flat r.kind trivial,
        flat r.start start, flat r.finish finish, flat r.days days,
        flat r.reason (fits_text _), flat r.state trivial,
        flat r.decisionReason (fits_text _), flat r.decidedBy (fits_text _),
        flat r.decidedAt decidedAt, flat r.createdAt createdAt,
        flat r.updatedAt updatedAt⟩

instance : Exact LeaveRequest := ⟨fun _ => trivial⟩

instance : Faithful LeaveDecision where
  Fits d := Fits d.recordedAt
  nesting _ := 1
  decode_encode d recordedAt :=
    read_then rfl <| keep d.request trivial rfl <| keep d.action trivial rfl <|
      keep d.actor trivial rfl <| keep d.role trivial rfl <|
      keep d.reason (fits_text _) rfl <| keep d.recordedAt recordedAt rfl rfl
  readable d recordedAt _ within := .record within rfl fun _ _ =>
    ⟨flat d.request trivial, flat d.action trivial, flat d.actor trivial,
      flat d.role trivial, flat d.reason (fits_text _),
      flat d.recordedAt recordedAt⟩

instance : Exact LeaveDecision := ⟨fun _ => trivial⟩

/-! ## Balances -/

/-- A year is read back if 32 bits can hold it. -/
theorem optionalYear_eq {members : List (String × Json)} {name : String}
    {year : Option Int} (found : members.lookup name = some (encode year))
    (fits : ∀ y ∈ year, minInt32 ≤ y ∧ y ≤ maxInt32) :
    optionalYear members name = some year := by
  rw [optionalYear, found]
  cases year with
  | none =>
      rfl
  | some y =>
      exact congrArg (Option.map some) (if_pos (fits y rfl))

/-- What 32 bits can hold, 64 can. -/
theorem fits_of_year {year : Option Int}
    (fits : ∀ y ∈ year, minInt32 ≤ y ∧ y ≤ maxInt32) : Fits year := by
  intro y member
  have low : minInt64 ≤ minInt32 := by decide
  have high : maxInt32 ≤ maxInt64 := by decide
  exact ⟨Int.le_trans low (fits y member).1,
    Int.le_trans (fits y member).2 high⟩

instance : Faithful LeaveBalance where
  Fits b := Fits b.grantedDays ∧ Fits b.usedDays ∧ Fits b.remainingDays ∧
    Fits b.carryOverDays ∧
    (∀ y ∈ b.lastAccrualYear, minInt32 ≤ y ∧ y ≤ maxInt32) ∧
    Fits b.updatedAt
  nesting _ := 1
  decode_encode b fits := by
    obtain ⟨grantedDays, usedDays, remainingDays, carryOverDays, year,
      updatedAt⟩ := fits
    exact read_then rfl <| keep b.employee trivial rfl <|
      keep b.organization (fits_text _) rfl <|
      keep b.grantedDays grantedDays rfl <| keep b.usedDays usedDays rfl <|
      keep b.remainingDays remainingDays rfl <|
      keep b.carryOverDays carryOverDays rfl <|
      read_then (optionalYear_eq rfl year) <|
      keep b.updatedAt updatedAt rfl rfl
  readable b fits n within := by
    obtain ⟨grantedDays, usedDays, remainingDays, carryOverDays, year,
      updatedAt⟩ := fits
    exact .record within rfl fun _ _ =>
      ⟨flat b.employee trivial, flat b.organization (fits_text _),
        flat b.grantedDays grantedDays, flat b.usedDays usedDays,
        flat b.remainingDays remainingDays,
        flat b.carryOverDays carryOverDays,
        flat b.lastAccrualYear (fits_of_year year),
        flat b.updatedAt updatedAt⟩

instance : Exact LeaveBalance := ⟨fun _ => trivial⟩

/-! ## Activity and faults -/

instance : Faithful AuditEntry where
  Fits e := Fits e.payload ∧ Fits e.recordedAt
  Whole e := Whole e.payload
  settled e := { e with payload := settled e.payload }
  nesting e := nesting e.payload + 1
  decode_encode e fits := by
    obtain ⟨payload, recordedAt⟩ := fits
    exact read_then rfl <| keep e.action trivial rfl <|
      keep e.entityType trivial rfl <| keep e.entity (fits_text _) rfl <|
      keep e.organization (fits_text _) rfl <| keep e.role trivial rfl <|
      keep e.actor trivial rfl <| read e.payload payload rfl <|
      keep e.recordedAt recordedAt rfl rfl
  settled_eq e whole :=
    congrArg (fun payload => { e with payload }) (settled_eq e.payload whole)
  readable e fits n within := by
    obtain ⟨payload, recordedAt⟩ := fits
    exact .record within rfl fun _ above =>
      ⟨flat e.action trivial, flat e.entityType trivial,
        flat e.entity (fits_text _), flat e.organization (fits_text _),
        flat e.role trivial, flat e.actor trivial,
        readable e.payload payload above, flat e.recordedAt recordedAt⟩

/-- Details that are missing are left out, and read as missing. -/
instance : Faithful Fault.Body where
  Fits _ := True
  nesting _ := 1
  decode_encode b _ := by
    obtain ⟨code, message, details⟩ := b
    cases details with
    | none =>
        exact read_then rfl <| keep code trivial rfl <|
          keep message trivial rfl rfl
    | some details =>
        exact read_then rfl <| keep code trivial rfl <|
          keep message trivial rfl <|
          keep (some details) (fits_text _) rfl rfl
  readable b _ n within := by
    obtain ⟨code, message, details⟩ := b
    cases details with
    | none =>
        exact .record within rfl fun _ _ =>
          ⟨flat code trivial, flat message trivial⟩
    | some details =>
        exact .record within rfl fun _ _ =>
          ⟨flat code trivial, flat message trivial, flat details trivial⟩

instance : Exact Fault.Body := ⟨fun _ => trivial⟩

end Workforce.Wire
