import Workforce.Proofs.Pay.NetPreview
import Workforce.Proofs.Pay.Sign

/-!
# What deductions come to

Deductions are given as amounts, or derived from gross pay by the rates of a
profile.  This module shows when a request for either is met, and what the
answer then says:

* given amounts are accepted exactly if none of them is negative, and a profile
  exactly if it is the one asked for, in the expected version, active and meant
  for this use; no amount is too large to be held (`resolveDeductions_ne_overflow`);
* a share of gross pay is not negative, is no more than gross pay, and is the
  exact share rounded once if the rate has at most nine places (`IsShare`);
* the total is the sum of the three amounts as far as 64 bits reach, and net
  pay is what is left, exactly (`DeductionSummary.Balances`);
* the written account repeats all that (`DeductionSummary.Accounts`).

Nine places are no accident.  Gross pay takes 63 bits and such a rate at most
30, so that their product still is a decimal; with more places it may be
rounded before it is rounded to won.
-/

namespace Workforce

open Outcome (bind_eq_ok ensure_eq_ok pure_eq_ok)

/-! ## Shares -/

/-- The share of gross pay at a rate, in won. -/
structure IsShare (amount grossPay : Int) (rate : Decimal) : Prop where
  nonneg : 0 ≤ amount
  le : amount ≤ grossPay
  exact : rate.scale ≤ 9 → amount = roundAway (grossPay * rate.value)

section Share

variable {grossPay share : Int} {rate : Decimal}

theorem rateShare_eq_ok (shared : rateShare grossPay rate = .ok share) :
    ∃ product,
      Decimal.Ends (grossPay * rate.value) product ∧
        share = roundWon product := by
  simp only [rateShare, Overflow.bind_eq_ok, Overflow.pure_eq_ok] at shared
  obtain ⟨amount, made, product, multiplied, rfl⟩ := shared
  obtain ⟨coefficient, whole⟩ := Decimal.ofInt_eq_ok made
  have ends := Decimal.mul_ends multiplied
  rw [Decimal.value_of_whole whole, coefficient] at ends
  exact ⟨product, ends, rfl⟩

/-- Gross pay times a rate of at most nine places takes no more than 96
bits. -/
theorem held_product (positive : 0 ≤ grossPay) (greatest : grossPay ≤ maxInt64)
    (fraction : rate.isFraction = true) (few : rate.scale ≤ 9) :
    Decimal.Held (grossPay * rate.value) := by
  simp only [Decimal.isFraction, Bool.and_eq_true,
    decide_eq_true_eq] at fraction
  have power : tenTo rate.scale ≤ tenTo 9 :=
    Nat.pow_le_pow_right (by decide) few
  have size : rate.coefficient.natAbs ≤ tenTo 9 := by
    omega
  have gross : grossPay.natAbs ≤ 0x7fffffffffffffff := by
    unfold maxInt64 at greatest
    omega
  refine Decimal.held_iff.2
    ⟨grossPay * rate.coefficient, rate.scale, ?_, rate.scale_le, ?_⟩
  · rw [Int.natAbs_mul]
    exact lt_of_le_of_lt (Nat.mul_le_mul gross size) (by decide)
  · rw [Decimal.value]
    push_cast
    ring

theorem rateShare_isShare (positive : 0 ≤ grossPay)
    (greatest : grossPay ≤ maxInt64) (fraction : rate.isFraction = true)
    (shared : rateShare grossPay rate = .ok share) :
    IsShare share grossPay rate := by
  obtain ⟨product, ends, rfl⟩ := rateShare_eq_ok shared
  obtain ⟨least, most⟩ := Decimal.isFraction_iff.1 fraction
  have gross : (0 : ℚ) ≤ grossPay := by
    exact_mod_cast positive
  have above : 0 ≤ product.value :=
    ends.sameSide.nonneg (mul_nonneg gross least)
  have below : product.value ≤ grossPay :=
    ends.sameSide.le grossPay (mul_le_of_le_one_right gross most)
  obtain ⟨rounded, nonneg, le⟩ := roundWon_between
    (by exact_mod_cast above) below (by decide) greatest
  refine ⟨nonneg, le, ?_⟩
  intro few
  rw [rounded,
    ends.rounds.exact (held_product positive greatest fraction few)]

end Share

/-! ## Totals -/

/-- The total of amounts that are not negative is cut off once, at the end. -/
theorem totalDeductions_eq_min {withholdingTax socialInsurance other : Int}
    (tax : 0 ≤ withholdingTax) (insurance : 0 ≤ socialInsurance)
    (rest : 0 ≤ other) :
    totalDeductions withholdingTax socialInsurance other =
      min (withholdingTax + socialInsurance + other) maxInt64 := by
  unfold totalDeductions saturate minInt64 maxInt64
  omega

namespace DeductionSummary

/-- Amounts of which none is negative, their sum within 64 bits, and what is
left of gross pay without any cut. -/
structure Balances (s : DeductionSummary) (grossPay : Int) : Prop where
  withholdingTax : 0 ≤ s.withholdingTax
  socialInsurance : 0 ≤ s.socialInsurance
  other : 0 ≤ s.other
  total : s.total =
    min (s.withholdingTax + s.socialInsurance + s.other) maxInt64
  netPay : s.netPay grossPay = grossPay - s.total

/-- The written account repeats the amounts, and of a profile the id and the
version. -/
structure Accounts (s : DeductionSummary) : Prop where
  mode : s.breakdown.member? "mode" = some (.str (Named.name s.mode))
  withholdingTax : s.breakdown.member? "withholdingTaxKrw" =
    some (.int s.withholdingTax)
  socialInsurance : s.breakdown.member? "socialInsuranceKrw" =
    some (.int s.socialInsurance)
  other : s.breakdown.member? "otherDeductionsKrw" = some (.int s.other)
  profileId :
    ((s.breakdown.member? "profile").bind fun p => p.member? "id") =
      s.profileId.map .str
  profileVersion :
    ((s.breakdown.member? "profile").bind fun p => p.member? "version") =
      s.profileVersion.map .int

theorem balances_of_total {s : DeductionSummary} {grossPay : Int}
    (positive : 0 ≤ grossPay) (greatest : grossPay ≤ maxInt64)
    (tax : 0 ≤ s.withholdingTax) (insurance : 0 ≤ s.socialInsurance)
    (rest : 0 ≤ s.other)
    (total : s.total =
      totalDeductions s.withholdingTax s.socialInsurance s.other) :
    s.Balances grossPay := by
  rw [totalDeductions_eq_min tax insurance rest] at total
  refine ⟨tax, insurance, rest, total, ?_⟩
  unfold netPay saturate minInt64
  unfold maxInt64 at total greatest ⊢
  omega

end DeductionSummary

/-! ## Given amounts -/

namespace ManualDeductions

/-- No amount is negative, nor any of the items. -/
structure Nonnegative (d : ManualDeductions) : Prop where
  withholdingTax : 0 ≤ d.withholdingTax
  socialInsurance : 0 ≤ d.socialInsurance
  other : 0 ≤ d.other
  breakdown : ∀ e ∈ d.breakdown.entries, 0 ≤ e.2

/-- The summary of given amounts has these amounts and names no profile.  Its
written account also has the items, if there are any. -/
structure SummedUp (d : ManualDeductions) (s : DeductionSummary) : Prop where
  mode : s.mode = .manual
  withholdingTax : s.withholdingTax = d.withholdingTax
  socialInsurance : s.socialInsurance = d.socialInsurance
  other : s.other = d.other
  profileId : s.profileId = none
  profileVersion : s.profileVersion = none
  items : s.breakdown.member? "additional" =
    if d.breakdown.entries = [] then none
    else some (.obj (d.breakdown.entries.map fun e => (e.1, .int e.2)))

variable {d : ManualDeductions} {s : DeductionSummary}

theorem validate_eq_ok : d.validate = .ok () ↔ d.Nonnegative := by
  have each : d.validate = .ok () ↔ ∀ e ∈ d.named, 0 ≤ e.2 := by
    rw [validate, Outcome.forM_eq_ok]
    simp only [ensureAmount, ensure_eq_ok]
  rw [each]
  constructor
  · intro all
    refine ⟨all ("withholdingTaxKrw", d.withholdingTax) (by simp [named]),
      all ("socialInsuranceKrw", d.socialInsurance) (by simp [named]),
      all ("otherDeductionsKrw", d.other) (by simp [named]), ?_⟩
    intro e member
    exact all ("deductions.breakdown." ++ e.1, e.2)
      (List.mem_append_right _ (List.mem_map_of_mem member))
  · rintro ⟨tax, insurance, rest, items⟩ e member
    rcases List.mem_append.1 member with plain | itemised
    · simp only [List.mem_cons, List.not_mem_nil, or_false] at plain
      rcases plain with rfl | rfl | rfl
      · exact tax
      · exact insurance
      · exact rest
    · obtain ⟨item, listed, rfl⟩ := List.mem_map.1 itemised
      exact items item listed

/-- Amounts are looked at, and nothing is computed that could overflow. -/
theorem validate_ne_overflow (cause : Overflow) :
    d.validate ≠ .error (.overflow cause) := by
  intro failed
  obtain ⟨e, _, failed⟩ := Outcome.forM_eq_error failed
  cases (Outcome.ensure_eq_error.1 failed).2

theorem resolve_succeeds_iff :
    (∃ s, d.resolve = .ok s) ↔ d.Nonnegative := by
  rw [← validate_eq_ok]
  constructor
  · rintro ⟨s, resolved⟩
    simp only [resolve, bind_eq_ok] at resolved
    obtain ⟨_, valid, _⟩ := resolved
    exact valid
  · intro valid
    simp only [resolve, valid, Outcome.ok_bind]
    exact ⟨_, rfl⟩

theorem resolve_eq_ok (resolved : d.resolve = .ok s) :
    d.Nonnegative ∧ d.SummedUp s ∧ s.Accounts ∧
      s.total =
        totalDeductions s.withholdingTax s.socialInsurance s.other := by
  have nonnegative := resolve_succeeds_iff.1 ⟨s, resolved⟩
  simp only [resolve, bind_eq_ok, pure_eq_ok] at resolved
  obtain ⟨_, _, rfl⟩ := resolved
  refine ⟨nonnegative, ⟨rfl, rfl, rfl, rfl, rfl, rfl, ?_⟩, ?_, rfl⟩
  · cases d.breakdown.entries with
    | nil =>
        rfl
    | cons e rest =>
        rfl
  · cases d.breakdown.entries with
    | nil =>
        exact ⟨rfl, rfl, rfl, rfl, rfl, rfl⟩
    | cons e rest =>
        exact ⟨rfl, rfl, rfl, rfl, rfl, rfl⟩

end ManualDeductions

/-! ## Amounts by a profile -/

namespace DeductionProfile

/-- The rates of a profile, as far as it has any, are between zero and one. -/
structure HasFractions (p : DeductionProfile) : Prop where
  withholding : ∀ r ∈ p.withholdingRate, 0 ≤ r.value ∧ r.value ≤ 1
  social : ∀ r ∈ p.socialInsuranceRate, 0 ≤ r.value ∧ r.value ≤ 1

/-- The summary of a profile has its shares of gross pay and its fixed amount,
and names it with its version. -/
structure Applied (p : DeductionProfile) (grossPay : Int)
    (s : DeductionSummary) : Prop where
  mode : s.mode = .profile
  withholdingTax :
    IsShare s.withholdingTax grossPay (p.withholdingRate.getD Decimal.zero)
  socialInsurance :
    IsShare s.socialInsurance grossPay
      (p.socialInsuranceRate.getD Decimal.zero)
  other : s.other = p.fixedOther
  profileId : s.profileId = some p.id
  profileVersion : s.profileVersion = some p.version

variable {p : DeductionProfile} {grossPay expectedVersion : Int}
  {s : DeductionSummary}

theorem all_isFraction {rate : Option Decimal}
    (fraction : ∀ r ∈ rate, 0 ≤ r.value ∧ r.value ≤ 1) :
    rate.all Decimal.isFraction = true := by
  cases rate with
  | none =>
      rfl
  | some r =>
      exact Decimal.isFraction_iff.2 (fraction r rfl)

/-- A profile is accepted exactly if nothing stands in its way. -/
theorem resolve_succeeds_iff (least : minInt64 ≤ grossPay)
    (greatest : grossPay ≤ maxInt64) (rates : p.HasFractions) :
    (∃ s, p.resolve grossPay expectedVersion = .ok s) ↔
      p.fault? expectedVersion = none := by
  constructor
  · rintro ⟨s, resolved⟩
    cases barred : p.fault? expectedVersion with
    | none =>
        rfl
    | some fault =>
        rw [resolve_of_fault barred] at resolved
        exact absurd resolved Outcome.refuse_ne_ok
  · intro free
    exact resolve_of_no_fault free least greatest
      (all_isFraction rates.withholding) (all_isFraction rates.social)

theorem resolve_ne_overflow (least : minInt64 ≤ grossPay)
    (greatest : grossPay ≤ maxInt64) (rates : p.HasFractions)
    (cause : Overflow) :
    p.resolve grossPay expectedVersion ≠ .error (.overflow cause) := by
  intro overflow
  cases barred : p.fault? expectedVersion with
  | none =>
      obtain ⟨s, resolved⟩ :=
        (resolve_succeeds_iff least greatest rates).2 barred
      rw [resolved] at overflow
      cases overflow
  | some fault =>
      rw [resolve_of_fault barred] at overflow
      cases overflow

theorem resolve_accounts
    (resolved : p.resolve grossPay expectedVersion = .ok s) :
    s.Accounts := by
  simp only [resolve, bind_eq_ok, pure_eq_ok] at resolved
  obtain ⟨_, _, _, _, _, _, tax, _, insurance, _, rfl⟩ := resolved
  exact ⟨rfl, rfl, rfl, rfl, rfl, rfl⟩

theorem resolve_applied (positive : 0 ≤ grossPay)
    (greatest : grossPay ≤ maxInt64) (rates : p.HasFractions)
    (resolved : p.resolve grossPay expectedVersion = .ok s) :
    p.Applied grossPay s := by
  have priced := DeductionProfile.resolve_eq_ok resolved
  exact
    { mode := priced.mode
      withholdingTax := rateShare_isShare positive greatest
        (isFraction_getD (all_isFraction rates.withholding))
        priced.withholding
      socialInsurance := rateShare_isShare positive greatest
        (isFraction_getD (all_isFraction rates.social)) priced.social
      other := priced.other
      profileId := priced.id
      profileVersion := priced.version }

end DeductionProfile

/-! ## Requests -/

section Request

variable {grossPay expectedVersion : Int} {profile : Option DeductionProfile}
  {id : String} {s : DeductionSummary}

theorem resolveDeductions_profile_eq_ok :
    resolveDeductions grossPay (.profile id expectedVersion) profile =
        .ok s ↔
      ∃ p ∈ profile, p.id = id ∧
        p.resolve grossPay expectedVersion = .ok s := by
  simp only [resolveDeductions, bind_eq_ok, Outcome.demand_eq_ok,
    Option.filter_eq_some_iff, beq_iff_eq, and_assoc, Option.mem_def]

theorem resolveDeductions_profile_succeeds_iff (least : minInt64 ≤ grossPay)
    (greatest : grossPay ≤ maxInt64)
    (rates : ∀ p ∈ profile, p.HasFractions) :
    (∃ s, resolveDeductions grossPay (.profile id expectedVersion) profile =
        .ok s) ↔
      ∃ p ∈ profile, p.id = id ∧ p.version = expectedVersion ∧
        p.active = true ∧ p.mode = .profile := by
  constructor
  · rintro ⟨s, resolved⟩
    obtain ⟨p, given, key, resolved⟩ :=
      resolveDeductions_profile_eq_ok.1 resolved
    have free := (DeductionProfile.resolve_succeeds_iff least greatest
      (rates p given)).1 ⟨s, resolved⟩
    exact ⟨p, given, key, DeductionProfile.fault?_eq_none.1 free⟩
  · rintro ⟨p, given, key, ready⟩
    obtain ⟨s, resolved⟩ := (DeductionProfile.resolve_succeeds_iff least
      greatest (rates p given)).2 (DeductionProfile.fault?_eq_none.2 ready)
    exact ⟨s, resolveDeductions_profile_eq_ok.2 ⟨p, given, key, resolved⟩⟩

/-- No request overflows, as long as the rates of the profile are between zero
and one. -/
theorem resolveDeductions_ne_overflow (least : minInt64 ≤ grossPay)
    (greatest : grossPay ≤ maxInt64)
    (rates : ∀ p ∈ profile, p.HasFractions) (request : DeductionRequest)
    (cause : Overflow) :
    resolveDeductions grossPay request profile ≠
      .error (.overflow cause) := by
  intro overflow
  cases request with
  | manual amounts =>
      rcases Outcome.bind_eq_error.1 overflow with invalid | ⟨_, _, later⟩
      · exact ManualDeductions.validate_ne_overflow cause invalid
      · cases later
  | profile id expectedVersion =>
      rcases Outcome.bind_eq_error.1 overflow with missing | ⟨p, found, later⟩
      · cases (Outcome.demand_eq_error.1 missing).2
      · rw [Outcome.demand_eq_ok, Option.filter_eq_some_iff] at found
        exact DeductionProfile.resolve_ne_overflow least greatest
          (rates p found.1) cause later

end Request

/-- Deductions from gross pay of 64 bits.  Given amounts are accepted exactly
if none is negative.  If the rates of the profile are between zero and one,
nothing overflows, and the profile is accepted exactly if it is the one that is
asked for, has the expected version, is active and is meant for this use.
From gross pay that is not negative the accepted amounts, the total and net pay
balance and are written down as they are; those of a profile, whose fixed
amount is not negative either, are its shares of gross pay. -/
theorem resolveDeductions_balances {grossPay : Int}
    (least : minInt64 ≤ grossPay) (greatest : grossPay ≤ maxInt64)
    (profile : Option DeductionProfile) :
    (∀ amounts,
      ((∃ s, resolveDeductions grossPay (.manual amounts) profile = .ok s) ↔
        amounts.Nonnegative) ∧
      ∀ s,
        resolveDeductions grossPay (.manual amounts) profile = .ok s →
        0 ≤ grossPay →
          s.Balances grossPay ∧ s.Accounts ∧ amounts.SummedUp s) ∧
    ((∀ p ∈ profile, p.HasFractions) →
      (∀ request cause,
        resolveDeductions grossPay request profile ≠
          .error (.overflow cause)) ∧
      ∀ id expectedVersion,
        ((∃ s, resolveDeductions grossPay (.profile id expectedVersion)
            profile = .ok s) ↔
          ∃ p ∈ profile, p.id = id ∧ p.version = expectedVersion ∧
            p.active = true ∧ p.mode = .profile) ∧
        ∀ s,
          resolveDeductions grossPay (.profile id expectedVersion) profile =
            .ok s →
          0 ≤ grossPay → (∀ p ∈ profile, 0 ≤ p.fixedOther) →
            s.Balances grossPay ∧ s.Accounts ∧
              ∃ p ∈ profile, p.Applied grossPay s) := by
  refine ⟨?_, ?_⟩
  · intro amounts
    refine ⟨ManualDeductions.resolve_succeeds_iff, ?_⟩
    intro s resolved positive
    obtain ⟨nonnegative, summed, accounts, total⟩ :=
      ManualDeductions.resolve_eq_ok resolved
    refine ⟨?_, accounts, summed⟩
    refine DeductionSummary.balances_of_total positive greatest ?_ ?_ ?_ total
    · rw [summed.withholdingTax]
      exact nonnegative.withholdingTax
    · rw [summed.socialInsurance]
      exact nonnegative.socialInsurance
    · rw [summed.other]
      exact nonnegative.other
  · intro rates
    refine ⟨resolveDeductions_ne_overflow least greatest rates, ?_⟩
    intro id expectedVersion
    refine ⟨resolveDeductions_profile_succeeds_iff least greatest rates, ?_⟩
    intro s resolved positive fixed
    obtain ⟨p, given, _, resolved⟩ :=
      resolveDeductions_profile_eq_ok.1 resolved
    have applied := DeductionProfile.resolve_applied positive greatest
      (rates p given) resolved
    refine ⟨?_, DeductionProfile.resolve_accounts resolved, p, given,
      applied⟩
    refine DeductionSummary.balances_of_total positive greatest
      applied.withholdingTax.nonneg applied.socialInsurance.nonneg ?_
      (DeductionProfile.resolve_eq_ok resolved).total
    rw [applied.other]
    exact fixed p given

/-! ## As much as there is -/

/-- A rate of 28 places, next to one. -/
def nearlyAll : Decimal :=
  (Decimal.ofParts? 9999999999999999999999999999 28).getD Decimal.zero

/-- A profile that takes half of gross pay, nearly all of it, and one won. -/
def greedyProfile : DeductionProfile where
  id := "greedy"
  organization := none
  name := "greedy"
  mode := .profile
  withholdingRate := some (tenths 5)
  socialInsuranceRate := some nearlyAll
  fixedOther := 1
  active := true
  version := 3
  createdAt := ⟨0⟩
  updatedAt := ⟨0⟩

theorem hasFractions_greedyProfile : greedyProfile.HasFractions where
  withholding := by
    rintro r ⟨⟩
    exact Decimal.isFraction_iff.1 (by decide)
  social := by
    rintro r ⟨⟩
    exact Decimal.isFraction_iff.1 (by decide)

/-- Of the greatest gross pay there is, the two shares alone are more than 64
bits.  The total is cut off to gross pay and nothing is left, while an amount
below zero is refused. -/
theorem resolveDeductions_greedyProfile :
    (∃ s,
      resolveDeductions maxInt64 (.profile "greedy" 3) (some greedyProfile) =
          .ok s ∧
        s.withholdingTax = 4611686018427387904 ∧
        s.socialInsurance = maxInt64 ∧ s.netPay maxInt64 = 0 ∧
        s.Balances maxInt64 ∧ s.Accounts) ∧
    ¬ ∃ s, resolveDeductions maxInt64 (.manual ⟨0, 0, -1, .empty⟩)
      (some greedyProfile) = .ok s := by
  obtain ⟨manual, byProfile⟩ := resolveDeductions_balances
    (by decide) (le_refl maxInt64) (some greedyProfile)
  obtain ⟨_, named⟩ := byProfile (by
    rintro p ⟨⟩
    exact hasFractions_greedyProfile)
  obtain ⟨accepted, kept⟩ := named "greedy" 3
  obtain ⟨s, resolved⟩ :=
    accepted.2 ⟨greedyProfile, rfl, rfl, rfl, rfl, rfl⟩
  have shown : (resolveDeductions maxInt64 (.profile "greedy" 3)
      (some greedyProfile)).toOption.map
        (fun s => (s.withholdingTax, s.socialInsurance,
          s.netPay maxInt64)) =
      some (4611686018427387904, maxInt64, 0) := by
    decide +kernel
  rw [resolved] at shown
  obtain ⟨tax, others⟩ := Prod.mk.inj (Option.some.inj shown)
  obtain ⟨insurance, net⟩ := Prod.mk.inj others
  obtain ⟨balances, accounts, _⟩ := kept s resolved (by decide) (by
    rintro p ⟨⟩
    decide)
  refine ⟨⟨s, resolved, tax, insurance, net, balances, accounts⟩, ?_⟩
  rw [(manual _).1]
  rintro ⟨_, _, rest, _⟩
  revert rest
  decide

end Workforce
