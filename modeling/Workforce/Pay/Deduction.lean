import Workforce.Access.Tenant
import Workforce.Json.Basic
import Workforce.Pay.Gross
import Workforce.Text.Named

/-!
Deductions from gross pay: amounts that are given, or amounts that a versioned
profile derives from the gross pay.
-/

namespace Workforce

/-- Where the amounts of a deduction come from. -/
inductive DeductionMode where
  | manual
  | profile
deriving DecidableEq, Repr

instance : Named DeductionMode where
  all := [.manual, .profile]
  name
    | .manual => "manual"
    | .profile => "profile"

/-- Rates and a fixed amount under an id. The version counts how often it has
been written. -/
structure DeductionProfile where
  id : String
  organization : Option String
  name : String
  mode : DeductionMode
  withholdingRate : Option Decimal
  socialInsuranceRate : Option Decimal
  fixedOther : Int
  active : Bool
  version : Int
  createdAt : Instant
  updatedAt : Instant
deriving DecidableEq, Repr

instance : Owned DeductionProfile := ⟨DeductionProfile.organization⟩

/-! ## Itemised amounts -/

/-- Amounts by name, one for each, in the order of the names. -/
structure Itemisation where
  entries : List (String × Int)
  sorted : entries.Pairwise fun a b => a.1 < b.1
deriving DecidableEq

namespace Itemisation

/-- A list of entries with one more, at its place in the order of names; an
entry of the same name is replaced. -/
def place (name : String) (amount : Int) :
    List (String × Int) → List (String × Int)
  | [] => [(name, amount)]
  | (n, a) :: rest =>
    if name < n then (name, amount) :: (n, a) :: rest
    else if n < name then (n, a) :: place name amount rest
    else (name, amount) :: rest

theorem mem_place {name : String} {amount : Int} {e : String × Int}
    {entries : List (String × Int)} (h : e ∈ place name amount entries) :
    e = (name, amount) ∨ e ∈ entries := by
  induction entries with
  | nil => simpa [place] using h
  | cons head rest ih =>
    obtain ⟨n, a⟩ := head
    simp only [place] at h
    split at h
    · simpa using h
    · split at h
      · rcases List.mem_cons.1 h with rfl | h
        · simp
        · rcases ih h with h | h <;> simp [h]
      · rcases List.mem_cons.1 h with h | h <;> simp [h]

theorem place_sorted {name : String} {amount : Int}
    {entries : List (String × Int)}
    (h : entries.Pairwise fun a b => a.1 < b.1) :
    (place name amount entries).Pairwise fun a b => a.1 < b.1 := by
  induction entries with
  | nil => simp [place]
  | cons head rest ih =>
    obtain ⟨n, a⟩ := head
    obtain ⟨first, others⟩ := List.pairwise_cons.1 h
    simp only [place]
    split
    · rename_i before
      refine List.pairwise_cons.2 ⟨?_, h⟩
      intro e he
      rcases List.mem_cons.1 he with rfl | he
      · exact before
      · exact String.lt_trans before (first e he)
    · rename_i notBefore
      split
      · rename_i behind
        refine List.pairwise_cons.2 ⟨?_, ih others⟩
        intro e he
        rcases mem_place he with rfl | he
        · exact behind
        · exact first e he
      · rename_i notBehind
        have same : name = n :=
          String.le_antisymm (String.not_lt.1 notBehind)
            (String.not_lt.1 notBefore)
        exact List.pairwise_cons.2 ⟨by simpa [same] using first, others⟩

/-- No amounts. -/
def empty : Itemisation := ⟨[], List.Pairwise.nil⟩

/-- The amounts with one more under a name. -/
def insert (items : Itemisation) (name : String) (amount : Int) :
    Itemisation :=
  ⟨place name amount items.entries, place_sorted items.sorted⟩

/-- The amounts of a list, the last of each name. -/
def ofList (entries : List (String × Int)) : Itemisation :=
  entries.foldl (fun items e => items.insert e.1 e.2) empty

end Itemisation

/-! ## Requests and summaries -/

/-- Amounts that are given as they are. -/
structure ManualDeductions where
  withholdingTax : Int
  socialInsurance : Int
  other : Int
  breakdown : Itemisation
deriving DecidableEq

/-- What is to be deducted: given amounts, or those of a profile that is
expected to have a certain version. -/
inductive DeductionRequest where
  | manual (amounts : ManualDeductions)
  | profile (id : String) (expectedVersion : Int)
deriving DecidableEq

namespace DeductionRequest

/-- Where the amounts of a request come from. -/
def mode : DeductionRequest → DeductionMode
  | manual _ => .manual
  | profile _ _ => .profile

/-- The profile that a request names. -/
def profileId : DeductionRequest → Option String
  | manual _ => none
  | profile id _ => some id

end DeductionRequest

/-- The amounts deducted, their total, and a written account of them. -/
structure DeductionSummary where
  mode : DeductionMode
  withholdingTax : Int
  socialInsurance : Int
  other : Int
  total : Int
  profileId : Option String
  profileVersion : Option Int
  breakdown : Json

/-- What is left of gross pay, within 64 bits. -/
def DeductionSummary.netPay (s : DeductionSummary) (grossPay : Int) : Int :=
  saturate (grossPay - s.total)

/-! ## Resolving a request -/

/-- Passes an amount that is not negative. -/
def ensureAmount (field : String) (amount : Int) : Outcome Unit :=
  Outcome.ensure (0 ≤ amount)
    (.validation s!"{field} must be a non-negative integer")

namespace ManualDeductions

/-- The amounts with the names they are reported under, in the order in which
they are looked at. -/
def named (d : ManualDeductions) : List (String × Int) :=
  [("withholdingTaxKrw", d.withholdingTax),
    ("socialInsuranceKrw", d.socialInsurance),
    ("otherDeductionsKrw", d.other)] ++
  d.breakdown.entries.map fun e => ("deductions.breakdown." ++ e.1, e.2)

/-- Passes amounts of which none is negative. -/
def validate (d : ManualDeductions) : Outcome Unit :=
  d.named.forM fun e => ensureAmount e.1 e.2

end ManualDeductions

/-- The sum of three amounts, within 64 bits after each step. -/
def totalDeductions (withholdingTax socialInsurance other : Int) : Int :=
  saturate (saturate (withholdingTax + socialInsurance) + other)

/-- The members that every account of deductions begins with. -/
def accountMembers (mode : DeductionMode)
    (withholdingTax socialInsurance other : Int) : List (String × Json) :=
  [("mode", .str (Named.name mode)),
    ("withholdingTaxKrw", .int withholdingTax),
    ("socialInsuranceKrw", .int socialInsurance),
    ("otherDeductionsKrw", .int other)]

/-- The summary of given amounts. -/
def ManualDeductions.resolve (d : ManualDeductions) :
    Outcome DeductionSummary := do
  d.validate
  let additional : List (String × Json) :=
    if d.breakdown.entries.isEmpty then []
    else [("additional",
      .obj (d.breakdown.entries.map fun e => (e.1, .int e.2)))]
  return {
    mode := .manual
    withholdingTax := d.withholdingTax
    socialInsurance := d.socialInsurance
    other := d.other
    total := totalDeductions d.withholdingTax d.socialInsurance d.other
    profileId := none
    profileVersion := none
    breakdown := .obj (accountMembers .manual d.withholdingTax
      d.socialInsurance d.other ++ additional) }

/-- The share of gross pay at a rate, in won. -/
def rateShare (grossPay : Int) (rate : Decimal) : Except Overflow Int := do
  let share ← (← Decimal.ofInt grossPay).mul rate
  return roundWon share

/-- The summary of a profile, which has to have the expected version, be
active and be meant for this use. A missing rate is zero. -/
def DeductionProfile.resolve (p : DeductionProfile) (grossPay : Int)
    (expectedVersion : Int) : Outcome DeductionSummary := do
  Outcome.ensure (p.version = expectedVersion)
    (.conflict "deduction profile version mismatch")
  Outcome.ensure p.active (.conflict "deduction profile is inactive")
  Outcome.ensure (p.mode = .profile)
    (.conflict "deduction profile mode is not profile")
  let withholdingRate := p.withholdingRate.getD Decimal.zero
  let socialInsuranceRate := p.socialInsuranceRate.getD Decimal.zero
  let withholdingTax ← Outcome.ofAmount (rateShare grossPay withholdingRate)
  let socialInsurance ←
    Outcome.ofAmount (rateShare grossPay socialInsuranceRate)
  return {
    mode := .profile
    withholdingTax
    socialInsurance
    other := p.fixedOther
    total := totalDeductions withholdingTax socialInsurance p.fixedOther
    profileId := some p.id
    profileVersion := some p.version
    breakdown := .obj (accountMembers .profile withholdingTax
      socialInsurance p.fixedOther ++
      [("profile", .obj [("id", .str p.id), ("version", .int p.version)]),
        ("additional", .obj
          [("withholdingRate", .str (Decimal.text withholdingRate)),
            ("socialInsuranceRate",
              .str (Decimal.text socialInsuranceRate)),
            ("fixedOtherDeductionKrw", .int p.fixedOther)])]) }

/-- The summary of a request. One that names a profile needs that profile. -/
def resolveDeductions (grossPay : Int) (request : DeductionRequest)
    (profile : Option DeductionProfile) : Outcome DeductionSummary :=
  match request with
  | .manual amounts => amounts.resolve
  | .profile id expectedVersion => do
    let p ← Outcome.demand (profile.filter fun p => p.id == id)
      (.notFound "deduction profile not found")
    p.resolve grossPay expectedVersion

end Workforce
