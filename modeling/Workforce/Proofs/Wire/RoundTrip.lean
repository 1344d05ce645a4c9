import Workforce.Proofs.Wire.Pay

/-!
# What is written is read back

Every type with a wire form that is also read gives back what was written of its
values, by way of the JSON value and by way of its text:

* a value is given back whole, with the offsets and nanoseconds of its instants,
  the scales of its decimals, its missing values, itemised amounts and tags;
* but for the minus sign of a zero, and for a payload that is present but null,
  which comes back absent;
* and a text that is too deep is not read.  Only a payload can make it so.
-/

namespace Workforce

/-- The types with a wire form that is also read. -/
inductive WireType where
  | actor
  | role
  | attendanceRecord
  | attendanceState
  | leaveRequest
  | leaveKind
  | leaveState
  | leaveDecision
  | leaveAction
  | leaveBalance
  | deductionMode
  | deductionProfile
  | payrollRun
  | payrollState
  | organization
  | employee
  | workSchedule
  | auditEntry
  | payableMinutes
  | workInterval
  | multipliers
  | grossBreakdown
  | manualDeductions
  | deductionRequest
  | deductionSummary
  | config
  | featureFlags
  | payrollDefaults
  | leaveDefaults
  | faultBody
deriving DecidableEq, Repr

/-- A type with the laws of its wire form. -/
structure WireForm where
  Value : Type
  [wire : Wire Value]
  [faithful : Wire.Faithful Value]

namespace WireType

/-- The type of the values, with their wire form. -/
def form : WireType → WireForm
  | actor => ⟨Actor⟩
  | role => ⟨Role⟩
  | attendanceRecord => ⟨AttendanceRecord⟩
  | attendanceState => ⟨AttendanceState⟩
  | leaveRequest => ⟨LeaveRequest⟩
  | leaveKind => ⟨LeaveKind⟩
  | leaveState => ⟨LeaveState⟩
  | leaveDecision => ⟨LeaveDecision⟩
  | leaveAction => ⟨LeaveAction⟩
  | leaveBalance => ⟨LeaveBalance⟩
  | deductionMode => ⟨DeductionMode⟩
  | deductionProfile => ⟨DeductionProfile⟩
  | payrollRun => ⟨PayrollRun⟩
  | payrollState => ⟨PayrollState⟩
  | organization => ⟨Organization⟩
  | employee => ⟨Employee⟩
  | workSchedule => ⟨WorkSchedule⟩
  | auditEntry => ⟨AuditEntry⟩
  | payableMinutes => ⟨PayableMinutes⟩
  | workInterval => ⟨WorkInterval⟩
  | multipliers => ⟨Multipliers⟩
  | grossBreakdown => ⟨GrossBreakdown⟩
  | manualDeductions => ⟨ManualDeductions⟩
  | deductionRequest => ⟨DeductionRequest⟩
  | deductionSummary => ⟨DeductionSummary⟩
  | config => ⟨Config⟩
  | featureFlags => ⟨FeatureFlags⟩
  | payrollDefaults => ⟨PayrollDefaults⟩
  | leaveDefaults => ⟨LeaveDefaults⟩
  | faultBody => ⟨Fault.Body⟩

/-- The values of a type. -/
abbrev Value (t : WireType) : Type :=
  t.form.Value

instance (t : WireType) : Wire t.Value :=
  t.form.wire

instance (t : WireType) : Wire.Faithful t.Value :=
  t.form.faithful

/-- Whether values may carry a payload of any form. -/
def carriesPayload : WireType → Bool
  | auditEntry | deductionSummary | payrollRun => true
  | _ => false

open Wire

theorem nesting_le (t : WireType) (none : t.carriesPayload = false)
    (v : t.Value) : nesting v ≤ 3 := by
  cases t
  all_goals first
    | exact absurd none (by decide)
    | exact Nat.le_of_ble_eq_true rfl

end WireType

open Wire

/-- What is written of a value that fits is read back as the settled value, by
way of the form and, unless that is too deep, by way of its text; where no
payload is carried, no form is too deep.  A value is settled as it is if no zero
in it has a minus sign and its payload is not null (`Whole`). -/
theorem read_back_of_fits (t : WireType) (v : t.Value) (fits : Fits v) :
    decode (encode v) = some (settled v) ∧
      (Json.ofText? (encode v).text).bind decode =
        (if (encode v).depth ≤ 127 then some (settled v) else none) ∧
      (t.carriesPayload = false → (encode v).depth ≤ 127) ∧
      (Whole v → settled v = v) := by
  refine ⟨decode_encode v fits, ofText?_encode v fits, ?_, settled_eq v⟩
  intro none
  have least : (encode v).depth ≤ 3 :=
    Nat.le_trans (depth_encode_le v fits) (t.nesting_le none v)
  exact Nat.le_trans least (by decide)

/-! ## A run from a clock behind UTC -/

/-- A summary of deductions with a payload that tells how they came about. -/
def ratedSummary : DeductionSummary :=
  { mode := .profile
    withholdingTax := 2888
    socialInsurance := 0
    other := -1
    total := 2887
    profileId := some "7"
    profileVersion := some 2
    breakdown := .obj
      [("rates", .arr [.str "0.0330", .null]), ("line\n", .int (-1))] }

/-- A preview for a period that begins on a clock nine hours and a half behind
UTC, with a fraction of a second. -/
def previewedBehind : PayrollRun :=
  { id := "RUN-1"
    organization := none
    employee := some "emp-001"
    periodStart := ⟨⟨1700000000123456789⟩, -570, by decide⟩
    periodEnd := .ofInstant ⟨1700086400000000000⟩
    state := .previewed
    totals := ⟨480, 30, 0, 0⟩
    grossPay := 87500
    deductions := some ratedSummary
    netPay := some 84613
    sourceRecordCount := 1
    confirmedAt := none
    confirmedBy := none
    createdAt := ⟨0⟩
    updatedAt := ⟨1⟩ }

theorem fits_ratedSummary : Fits ratedSummary := by
  have breakdown : ratedSummary.breakdown.IsPlain := by
    refine ⟨2, .obj (by decide) ?_⟩
    simp only [List.forall_mem_cons]
    refine ⟨.arr ?_, .int (by decide), List.forall_mem_nil _⟩
    simp only [List.forall_mem_cons]
    exact ⟨.str _, .null, List.forall_mem_nil _⟩
  exact ⟨by decide, by decide, by decide, by decide, fits_some (by decide),
    breakdown⟩

theorem fits_previewedBehind : Fits previewedBehind :=
  ⟨by decide, by decide, ⟨by decide, by decide, by decide, by decide⟩,
    by decide, fits_some fits_ratedSummary, fits_some (by decide), by decide,
    fits_none, by decide, by decide⟩

/-- The preview is read back whole from its text. -/
theorem previewedBehind_read_back :
    Fits previewedBehind ∧
      (Json.ofText? (encode previewedBehind).text).bind decode =
        some previewedBehind := by
  obtain ⟨_, text, _, same⟩ :=
    read_back_of_fits .payrollRun previewedBehind fits_previewedBehind
  rw [if_pos (by decide), same trivial] at text
  exact ⟨fits_previewedBehind, text⟩

/-! ## What does not come back -/

/-- A zero with a minus sign, with as many places as there can be. -/
def signedZero : Decimal :=
  { Decimal.zero with
    negative := true
    scale := 28
    scale_le := Nat.le_refl 28 }

def signedFactors : Multipliers :=
  ⟨signedZero, .one, .one, .one⟩

/-- An entry with a payload. -/
def entryWith (payload : Option Json) : AuditEntry :=
  { action := "leave.requested"
    entityType := "LeaveRequest"
    entity := none
    organization := none
    role := .system
    actor := "platform-1"
    payload
    recordedAt := ⟨0⟩ }

/-- So many arrays in each other, around an empty one. -/
def nestedArrays : Nat → Json
  | 0 => .arr []
  | n + 1 => .arr [nestedArrays n]

theorem readable_nestedArrays (n : Nat) :
    (nestedArrays n).Readable (n + 1) := by
  induction n with
  | zero =>
      exact .arr fun _ member => absurd member List.not_mem_nil
  | succ n inductionHypothesis =>
      exact .arr (List.forall_mem_singleton.2 inductionHypothesis)

theorem fits_entryWith {payload : Json} (plain : payload.IsPlain) :
    Fits (entryWith (some payload)) := by
  refine ⟨?_, (by decide : Fits (Instant.mk 0))⟩
  intro _ same
  cases same
  exact plain

theorem depth_nestedArrays (n : Nat) : (nestedArrays n).depth = n + 1 := by
  induction n with
  | zero =>
      rfl
  | succ n inductionHypothesis =>
      rw [nestedArrays, Json.depth, Json.itemsDepth, inductionHypothesis,
        Json.itemsDepth, Nat.max_zero]

theorem depth_entryWith (payload : Json) :
    (encode (entryWith (some payload))).depth = payload.depth + 1 := by
  have fields : (encode (entryWith (some payload))).depth =
      max 0 (max 0 (max 0 (max 0 (max 0 (max 0 (max payload.depth
        (max 0 0))))))) + 1 :=
    rfl
  rw [fields]
  omega

/-- The minus sign of a zero, which a decimal has that was rounded to zero when
it was read, is lost; so is a payload that is null; and an entry with 127 arrays
in each other is not read from its text. -/
theorem lost_in_writing :
    (Json.decimal? (.str "-0.4e-28") = some signedZero ∧
      Fits signedFactors ∧
      (Json.ofText? (encode signedFactors).text).bind decode ≠
        some signedFactors) ∧
    (Fits (entryWith (some .null)) ∧
      (Json.ofText? (encode (entryWith (some .null))).text).bind decode ≠
        some (entryWith (some .null))) ∧
    (Fits (entryWith (some (nestedArrays 126))) ∧
      (Json.ofText?
        (encode (entryWith (some (nestedArrays 126)))).text).bind decode ≠
          some (entryWith (some (nestedArrays 126)))) := by
  refine ⟨⟨by decide, trivial, ?_⟩, ?_, ?_⟩
  · rw [ofText?_encode signedFactors trivial, if_pos (by decide)]
    decide
  · have fits := fits_entryWith ⟨0, .null⟩
    refine ⟨fits, ?_⟩
    rw [ofText?_encode _ fits, if_pos (by decide)]
    intro same
    have payloads := congrArg (Option.map AuditEntry.payload) same
    cases payloads
  · have fits := fits_entryWith ⟨127, readable_nestedArrays 126⟩
    refine ⟨fits, ?_⟩
    have deep :
        ¬ (encode (entryWith (some (nestedArrays 126)))).depth ≤ 127 := by
      rw [depth_entryWith, depth_nestedArrays]
      decide
    rw [ofText?_encode _ fits, if_neg deep]
    intro same
    cases same

end Workforce
