import Workforce.Proofs.Wire.Records
import Workforce.Wire.Config

/-!
# Pay and configurations are read back

Amounts that are itemised come back in the order of their names, and requests
with the mode that they were tagged with.  Factors, breakdowns, rates and what
holds them give back zeros without a minus sign.
-/

namespace Workforce

namespace Itemisation

theorem place_of_last {name : String} {amount : Int}
    {entries : List (String × Int)} (last : ∀ e ∈ entries, e.1 < name) :
    place name amount entries = entries ++ [(name, amount)] := by
  induction entries with
  | nil =>
      rfl
  | cons e entries inductionHypothesis =>
      obtain ⟨before, others⟩ := List.forall_mem_cons.1 last
      rw [place, if_neg (String.lt_asymm before), if_pos before,
        inductionHypothesis others]
      rfl

theorem eq_of_entries {a b : Itemisation} (same : a.entries = b.entries) :
    a = b := by
  obtain ⟨entries, sorted⟩ := a
  cases same
  rfl

/-- Amounts that are sorted by name are put down in their order. -/
theorem ofList_entries (items : Itemisation) :
    ofList items.entries = items := by
  have added : ∀ (rest : List (String × Int)) (done : Itemisation),
      (done.entries ++ rest).Pairwise (fun a b => a.1 < b.1) →
        (rest.foldl (fun items e => items.insert e.1 e.2) done).entries =
          done.entries ++ rest := by
    intro rest
    induction rest with
    | nil =>
        intro done _
        exact (List.append_nil _).symm
    | cons e rest inductionHypothesis =>
        intro done sorted
        have last : ∀ d ∈ done.entries, d.1 < e.1 := by
          intro d member
          exact (List.pairwise_append.1 sorted).2.2 d member e
            List.mem_cons_self
        have grown : (done.insert e.1 e.2).entries = done.entries ++ [e] :=
          place_of_last last
        have joined : done.entries ++ e :: rest =
            (done.entries ++ [e]) ++ rest := by
          rw [List.append_assoc]
          rfl
        rw [List.foldl_cons, inductionHypothesis _ (by
          rw [grown, ← joined]
          exact sorted), grown, joined]
  exact eq_of_entries (added items.entries .empty items.sorted)

end Itemisation

namespace Wire

open Text

/-! ## Names -/

instance : Telling DeductionMode := ⟨fun a => by cases a <;> rfl⟩

instance : Telling PayrollState := ⟨fun a => by cases a <;> rfl⟩

/-! ## Pay -/

instance : Faithful Multipliers where
  Fits _ := True
  Whole m :=
    Whole m.regular ∧ Whole m.overtime ∧ Whole m.night ∧ Whole m.holiday
  settled m :=
    ⟨settled m.regular, settled m.overtime, settled m.night,
      settled m.holiday⟩
  nesting _ := 1
  decode_encode m _ :=
    read_then rfl <| read m.regular trivial rfl <|
      read m.overtime trivial rfl <| read m.night trivial rfl <|
      read m.holiday trivial rfl rfl
  settled_eq m whole := by
    obtain ⟨regular, overtime, night, holiday⟩ := whole
    rw [settled_eq m.regular regular, settled_eq m.overtime overtime,
      settled_eq m.night night, settled_eq m.holiday holiday]
  readable m _ _ within := .record within rfl fun _ _ =>
    ⟨flat m.regular trivial, flat m.overtime trivial, flat m.night trivial,
      flat m.holiday trivial⟩

instance : Faithful GrossBreakdown where
  Fits b := Fits b.grossPay
  Whole b :=
    Whole b.regular ∧ Whole b.overtime ∧ Whole b.night ∧ Whole b.holiday
  settled b :=
    ⟨settled b.regular, settled b.overtime, settled b.night,
      settled b.holiday, b.grossPay⟩
  nesting _ := 1
  decode_encode b grossPay :=
    read_then rfl <| read b.regular trivial rfl <|
      read b.overtime trivial rfl <| read b.night trivial rfl <|
      read b.holiday trivial rfl <| keep b.grossPay grossPay rfl rfl
  settled_eq b whole := by
    obtain ⟨regular, overtime, night, holiday⟩ := whole
    rw [settled_eq b.regular regular, settled_eq b.overtime overtime,
      settled_eq b.night night, settled_eq b.holiday holiday]
  readable b grossPay _ within := .record within rfl fun _ _ =>
    ⟨flat b.regular trivial, flat b.overtime trivial, flat b.night trivial,
      flat b.holiday trivial, flat b.grossPay grossPay⟩

/-! ## Itemised amounts -/

/-- The amounts are read back under their names. -/
theorem mapM_entries {entries : List (String × Int)}
    (fits : ∀ e ∈ entries, Fits e.2) :
    ((entries.map fun e => (e.1, encode e.2)).mapM fun m => do
      return (m.1, ← decode m.2)) = some entries := by
  induction entries with
  | nil =>
      rfl
  | cons e entries inductionHypothesis =>
      obtain ⟨first, others⟩ := List.forall_mem_cons.1 fits
      rw [List.map_cons, List.mapM_cons]
      exact read_then (keep e.2 first rfl rfl)
        (read_then (inductionHypothesis others) rfl)

instance : Faithful Itemisation where
  Fits items := ∀ e ∈ items.entries, Fits e.2
  nesting _ := 1
  decode_encode items fits :=
    read_then (mapM_entries fits) (congrArg some items.ofList_entries)
  readable items fits n within := by
    cases n with
    | zero =>
        exact absurd within (Nat.not_succ_le_zero 0)
    | succ n =>
        refine .obj ?_ ?_
        · rw [List.map_map]
          exact List.pairwise_map.2
            (items.sorted.imp fun before => String.ne_of_lt before)
        · intro m member
          obtain ⟨e, entry, rfl⟩ := List.mem_map.1 member
          exact flat e.2 (fits e entry)

instance : Exact Itemisation := ⟨fun _ => trivial⟩

/-! ## Deductions -/

instance : Faithful ManualDeductions where
  Fits d := Fits d.withholdingTax ∧ Fits d.socialInsurance ∧ Fits d.other ∧
    Fits d.breakdown
  nesting _ := 2
  decode_encode d fits := by
    obtain ⟨withholdingTax, socialInsurance, other, breakdown⟩ := fits
    exact read_then rfl <| keep d.withholdingTax withholdingTax rfl <|
      keep d.socialInsurance socialInsurance rfl <| keep d.other other rfl <|
      keep d.breakdown breakdown rfl rfl
  readable d fits n within := by
    obtain ⟨withholdingTax, socialInsurance, other, breakdown⟩ := fits
    exact .record within rfl fun _ above =>
      ⟨flat d.withholdingTax withholdingTax,
        flat d.socialInsurance socialInsurance, flat d.other other,
        readable d.breakdown breakdown above⟩

instance : Exact ManualDeductions := ⟨fun _ => trivial⟩

/-- A request fits if its amounts do, or the version that it expects. -/
def fitsRequest : DeductionRequest → Prop
  | .manual d => Fits d
  | .profile _ version => Fits version

instance : Faithful DeductionRequest where
  Fits := fitsRequest
  nesting _ := 2
  decode_encode request fits := by
    cases request with
    | manual d =>
        obtain ⟨withholdingTax, socialInsurance, other, breakdown⟩ := fits
        have amounts : decode (α := ManualDeductions)
            (encode (DeductionRequest.manual d)) = some d :=
          read_then rfl <| keep d.withholdingTax withholdingTax rfl <|
            keep d.socialInsurance socialInsurance rfl <|
            keep d.other other rfl <| keep d.breakdown breakdown rfl rfl
        exact read_then (a := DeductionMode.manual) rfl
          (congrArg (Option.map DeductionRequest.manual) amounts)
    | profile id version =>
        exact read_then (a := DeductionMode.profile) rfl <| read_then rfl <|
          keep id trivial rfl <| keep version fits rfl rfl
  readable request fits n within := by
    cases request with
    | manual d =>
        obtain ⟨withholdingTax, socialInsurance, other, breakdown⟩ := fits
        exact .record within rfl fun _ above =>
          ⟨flat DeductionMode.manual trivial,
            flat d.withholdingTax withholdingTax,
            flat d.socialInsurance socialInsurance, flat d.other other,
            readable d.breakdown breakdown above⟩
    | profile id version =>
        exact .record within rfl fun _ _ =>
          ⟨flat DeductionMode.profile trivial, flat id trivial,
            flat version fits⟩

instance : Exact DeductionRequest := ⟨fun _ => trivial⟩

instance : NeverNull DeductionSummary := ⟨fun _ => Json.noConfusion⟩

instance : Faithful DeductionSummary where
  Fits s := Fits s.withholdingTax ∧ Fits s.socialInsurance ∧ Fits s.other ∧
    Fits s.total ∧ Fits s.profileVersion ∧ Fits s.breakdown
  nesting s := nesting s.breakdown + 1
  decode_encode s fits := by
    obtain ⟨withholdingTax, socialInsurance, other, total, profileVersion,
      breakdown⟩ := fits
    exact read_then rfl <| keep s.mode trivial rfl <|
      keep s.withholdingTax withholdingTax rfl <|
      keep s.socialInsurance socialInsurance rfl <| keep s.other other rfl <|
      keep s.total total rfl <| keep s.profileId (fits_text _) rfl <|
      keep s.profileVersion profileVersion rfl <|
      keep s.breakdown breakdown rfl rfl
  readable s fits n within := by
    obtain ⟨withholdingTax, socialInsurance, other, total, profileVersion,
      breakdown⟩ := fits
    exact .record within rfl fun _ above =>
      ⟨flat s.mode trivial, flat s.withholdingTax withholdingTax,
        flat s.socialInsurance socialInsurance, flat s.other other,
        flat s.total total, flat s.profileId (fits_text _),
        flat s.profileVersion profileVersion,
        readable s.breakdown breakdown above⟩

instance : Exact DeductionSummary := ⟨fun _ => trivial⟩

/-! ## Profiles and runs -/

theorem fits_rate (o : Option Decimal) : Fits o := by
  intro _ _
  trivial

instance : Faithful DeductionProfile where
  Fits p := Fits p.fixedOther ∧ Fits p.version ∧ Fits p.createdAt ∧
    Fits p.updatedAt
  Whole p := Whole p.withholdingRate ∧ Whole p.socialInsuranceRate
  settled p :=
    { p with
      withholdingRate := settled p.withholdingRate
      socialInsuranceRate := settled p.socialInsuranceRate }
  nesting _ := 1
  decode_encode p fits := by
    obtain ⟨fixedOther, version, createdAt, updatedAt⟩ := fits
    exact read_then rfl <| keep p.id trivial rfl <|
      keep p.organization (fits_text _) rfl <| keep p.name trivial rfl <|
      keep p.mode trivial rfl <| read p.withholdingRate (fits_rate _) rfl <|
      read p.socialInsuranceRate (fits_rate _) rfl <|
      keep p.fixedOther fixedOther rfl <| keep p.active trivial rfl <|
      keep p.version version rfl <| keep p.createdAt createdAt rfl <|
      keep p.updatedAt updatedAt rfl rfl
  settled_eq p whole := by
    obtain ⟨withholding, social⟩ := whole
    rw [settled_eq p.withholdingRate withholding,
      settled_eq p.socialInsuranceRate social]
  readable p fits n within := by
    obtain ⟨fixedOther, version, createdAt, updatedAt⟩ := fits
    exact .record within rfl fun _ _ =>
      ⟨flat p.id trivial, flat p.organization (fits_text _),
        flat p.name trivial, flat p.mode trivial,
        flat p.withholdingRate (fits_rate _),
        flat p.socialInsuranceRate (fits_rate _), flat p.fixedOther fixedOther,
        flat p.active trivial, flat p.version version,
        flat p.createdAt createdAt, flat p.updatedAt updatedAt⟩

instance : Faithful PayrollRun where
  Fits r := Fits r.periodStart ∧ Fits r.periodEnd ∧ Fits r.totals ∧
    Fits r.grossPay ∧ Fits r.deductions ∧ Fits r.netPay ∧
    Fits r.sourceRecordCount ∧ Fits r.confirmedAt ∧ Fits r.createdAt ∧
    Fits r.updatedAt
  nesting r := max 1 (nesting r.deductions) + 1
  decode_encode r fits := by
    obtain ⟨periodStart, periodEnd, totals, grossPay, deductions, netPay,
      sourceRecordCount, confirmedAt, createdAt, updatedAt⟩ := fits
    exact read_then rfl <| keep r.id trivial rfl <|
      keep r.organization (fits_text _) rfl <|
      keep r.employee (fits_text _) rfl <|
      keep r.periodStart periodStart rfl <| keep r.periodEnd periodEnd rfl <|
      keep r.state trivial rfl <| keep r.totals totals rfl <|
      keep r.grossPay grossPay rfl <| keep r.deductions deductions rfl <|
      keep r.netPay netPay rfl <|
      keep r.sourceRecordCount sourceRecordCount rfl <|
      keep r.confirmedAt confirmedAt rfl <|
      keep r.confirmedBy (fits_text _) rfl <| keep r.createdAt createdAt rfl <|
      keep r.updatedAt updatedAt rfl rfl
  readable r fits n within := by
    obtain ⟨periodStart, periodEnd, totals, grossPay, deductions, netPay,
      sourceRecordCount, confirmedAt, createdAt, updatedAt⟩ := fits
    exact .record within rfl fun _ above =>
      ⟨flat r.id trivial, flat r.organization (fits_text _),
        flat r.employee (fits_text _), flat r.periodStart periodStart,
        flat r.periodEnd periodEnd, flat r.state trivial,
        readable r.totals totals (Nat.le_trans (Nat.le_max_left _ _) above),
        flat r.grossPay grossPay,
        readable r.deductions deductions
          (Nat.le_trans (Nat.le_max_right _ _) above),
        flat r.netPay netPay, flat r.sourceRecordCount sourceRecordCount,
        flat r.confirmedAt confirmedAt, flat r.confirmedBy (fits_text _),
        flat r.createdAt createdAt, flat r.updatedAt updatedAt⟩

instance : Exact PayrollRun := ⟨fun _ => trivial⟩

/-! ## Configurations -/

instance : Faithful FeatureFlags where
  Fits _ := True
  nesting _ := 1
  decode_encode f _ :=
    read_then rfl <| keep f.tenancy trivial rfl <|
      keep f.payrollDeductions trivial rfl <|
      keep f.deductionProfile trivial rfl rfl
  readable f _ _ within := .record within rfl fun _ _ =>
    ⟨flat f.tenancy trivial, flat f.payrollDeductions trivial,
      flat f.deductionProfile trivial⟩

instance : Exact FeatureFlags := ⟨fun _ => trivial⟩

instance : Faithful PayrollDefaults where
  Fits p := Fits p.hourlyRate
  Whole p := Whole p.multipliers
  settled p := { p with multipliers := settled p.multipliers }
  nesting _ := 2
  decode_encode p hourlyRate :=
    read_then rfl <| keep p.hourlyRate hourlyRate rfl <|
      read p.multipliers trivial rfl rfl
  settled_eq p whole :=
    congrArg (fun multipliers => { p with multipliers })
      (settled_eq p.multipliers whole)
  readable p hourlyRate _ within := .record within rfl fun _ above =>
    ⟨flat p.hourlyRate hourlyRate, readable p.multipliers trivial above⟩

instance : Faithful LeaveDefaults where
  Fits l := Fits l.grantedDays ∧ Fits l.annualGrantDays ∧
    Fits l.carryOverCapDays
  nesting _ := 1
  decode_encode l fits := by
    obtain ⟨grantedDays, annualGrantDays, carryOverCapDays⟩ := fits
    exact read_then rfl <| keep l.grantedDays grantedDays rfl <|
      keep l.annualGrantDays annualGrantDays rfl <|
      keep l.carryOverCapDays carryOverCapDays rfl rfl
  readable l fits n within := by
    obtain ⟨grantedDays, annualGrantDays, carryOverCapDays⟩ := fits
    exact .record within rfl fun _ _ =>
      ⟨flat l.grantedDays grantedDays, flat l.annualGrantDays annualGrantDays,
        flat l.carryOverCapDays carryOverCapDays⟩

instance : Exact LeaveDefaults := ⟨fun _ => trivial⟩

instance : Faithful Config where
  Fits c := Fits c.payroll ∧ Fits c.leave
  Whole c := Whole c.payroll
  settled c := { c with payroll := settled c.payroll }
  nesting _ := 3
  decode_encode c fits := by
    obtain ⟨payroll, leave⟩ := fits
    exact read_then rfl <| keep c.features trivial rfl <|
      read c.payroll payroll rfl <| keep c.leave leave rfl rfl
  settled_eq c whole :=
    congrArg (fun payroll => { c with payroll })
      (settled_eq c.payroll whole)
  readable c fits n within := by
    obtain ⟨payroll, leave⟩ := fits
    exact .record within rfl fun _ above =>
      ⟨readable c.features trivial (Nat.le_of_succ_le above),
        readable c.payroll payroll above,
        readable c.leave leave (Nat.le_of_succ_le above)⟩

end Wire

end Workforce
