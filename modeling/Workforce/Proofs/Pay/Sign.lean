import Workforce.Proofs.Decimal.Bounds
import Workforce.Proofs.Pay.Gross

/-!
# Pay that is not negative

Minutes, rate and factors are checked before pay is computed: no minutes are
negative, and the rate and the four factors are above zero.  So no bucket that
is paid at one of the factors, or at their product, is below zero, and no
rounding on the way takes it there.

Late night minutes are paid at another number, the night factor and what the
overtime factor adds to one, and this one is not checked.  It is below zero if
the two factors do not come to one.  This module shows that nothing else can
make pay negative, and that this does.
-/

namespace Workforce

/-! ## Amounts in won -/

/-- An amount in whole won lies between any two amounts of 64 bits between
which it was. -/
theorem roundWon_between {d : Decimal} {least greatest : Int}
    (above : least ≤ d.value) (below : d.value ≤ greatest)
    (low : minInt64 ≤ least) (high : greatest ≤ maxInt64) :
    roundWon d = roundAway d.value ∧ least ≤ roundWon d ∧
      roundWon d ≤ greatest := by
  have atLeast := le_roundAway above
  have atMost := roundAway_le below
  have same : roundWon d = roundAway d.value := by
    rw [roundWon, Decimal.roundHalfAway_eq, saturate]
    omega
  rw [same]
  exact ⟨rfl, atLeast, atMost⟩

theorem roundWon_nonneg {d : Decimal} (nonnegative : 0 ≤ d.value) :
    0 ≤ roundWon d := by
  have rounded : 0 ≤ roundAway d.value :=
    le_roundAway (by exact_mod_cast nonnegative)
  rw [roundWon, Decimal.roundHalfAway_eq, saturate]
  unfold minInt64 maxInt64
  omega

/-! ## Buckets -/

section Buckets

variable {minutes : PayableMinutes} {hourlyRate : Int} {m : Multipliers}

/-- A bucket is not paid below zero if its exact amount is not below zero. -/
theorem bucketPay_nonneg {bucket : Int} {f d : Decimal}
    (amount : 0 ≤ (bucket : ℚ) * hourlyRate * f.value)
    (pay : bucketPay bucket hourlyRate f = .ok d) : 0 ≤ d.value := by
  obtain ⟨base, scaled, exact, product, quotient⟩ := bucketPay_eq_ok pay
  refine Decimal.divWhole_nonneg quotient ?_
  refine (Decimal.mul_ends product).sameSide.nonneg ?_
  rw [exact]
  exact amount

/-- What is paid at a factor that is not negative is not negative. -/
theorem bucketPay_nonneg_of_factor {bucket : Int} {f d : Decimal}
    (time : 0 ≤ bucket) (rate : 0 < hourlyRate) (factor : 0 ≤ f.value)
    (pay : bucketPay bucket hourlyRate f = .ok d) : 0 ≤ d.value := by
  have base : (0 : ℚ) ≤ (bucket : ℚ) * hourlyRate := by
    exact_mod_cast Int.mul_nonneg time rate.le
  exact bucketPay_nonneg (mul_nonneg base factor) pay

theorem sum_nonneg {a b d : Decimal} (sum : a.add b = .ok d)
    (left : 0 ≤ a.value) (right : 0 ≤ b.value) : 0 ≤ d.value :=
  (Decimal.add_ends sum).sameSide.nonneg (add_nonneg left right)

/-- The factor of late night minutes is not negative if the two it is made of
come to one: both steps on the way to it round to no less than the whole number
that is reached. -/
theorem lateFactor_nonneg {sum late : Decimal}
    (premium : 1 ≤ m.night.value + m.overtime.value)
    (added : m.night.add m.overtime = .ok sum)
    (subtracted : sum.sub Decimal.one = .ok late) : 0 ≤ late.value := by
  have reached : (1 : ℚ) ≤ sum.value := by
    exact_mod_cast (Decimal.add_ends added).sameSide.ge 1
      (by exact_mod_cast premium)
  refine (Decimal.sub_ends subtracted).sameSide.nonneg ?_
  rw [Decimal.value_one]
  linarith

/-- Late night minutes are not paid below zero if there are none, or if their
factor is not negative. -/
theorem lateNight_nonneg {sum factor late : Decimal} (rate : 0 < hourlyRate)
    (safe : minutes.night ≤ 180 ∨ 1 ≤ m.night.value + m.overtime.value)
    (added : m.night.add m.overtime = .ok sum)
    (subtracted : sum.sub Decimal.one = .ok factor)
    (paid : bucketPay minutes.lateNight hourlyRate factor = .ok late) :
    0 ≤ late.value := by
  rcases safe with short | premium
  · have none : minutes.lateNight = 0 := by
      unfold PayableMinutes.lateNight nightBaseLimit
      omega
    rw [none] at paid
    exact bucketPay_nonneg (by simp) paid
  · exact bucketPay_nonneg_of_factor (Int.le_max_right _ 0) rate
      (lateFactor_nonneg premium added subtracted) paid

end Buckets

/-! ## Gross pay -/

/-- Pay for positive factors.  No pay for regular minutes, for overtime or for
holidays is negative.  Neither is that for the night, nor the whole of it,
unless there are late night minutes and the night and overtime factors do not
come to one. -/
theorem grossPay_nonneg {minutes : PayableMinutes} {hourlyRate : Int}
    {m : Multipliers} {b : GrossBreakdown}
    (nonnegative : minutes.Nonnegative) (rate : 0 < hourlyRate)
    (valid : m.validate = .ok ())
    (priced : grossBreakdown minutes hourlyRate m = .ok b) :
    0 ≤ b.regular.value ∧ 0 ≤ b.overtime.value ∧ 0 ≤ b.holiday.value ∧
      (minutes.night ≤ 180 ∨ 1 ≤ m.night.value + m.overtime.value →
        0 ≤ b.night.value ∧ 0 ≤ b.grossPay) := by
  obtain ⟨regularPos, overtimePos, nightPos, holidayPos⟩ :=
    Multipliers.value_pos valid
  obtain ⟨regularTime, overtimeTime, nightTime, holidayTime⟩ := nonnegative
  obtain ⟨early, late, nightSum, lateFactor, holidayBase, holidayOvertime,
    holidayFactor, plain, most, sum, paidRegular, paidOvertime, paidEarly,
    nightSummed, subtracted, paidLate, nightAdded, paidHoliday, multiplied,
    paidHolidayOvertime, holidayAdded, plainAdded, mostAdded, summed,
    rounded⟩ := grossBreakdown_eq_ok priced
  have regular : 0 ≤ b.regular.value :=
    bucketPay_nonneg_of_factor regularTime rate regularPos.le paidRegular
  have overtime : 0 ≤ b.overtime.value := by
    split at paidOvertime
    · rw [paidOvertime, Decimal.value_zero]
    · exact bucketPay_nonneg_of_factor overtimeTime rate overtimePos.le
        paidOvertime
  have holiday : 0 ≤ b.holiday.value := by
    have premium : 0 ≤ holidayFactor.value :=
      (Decimal.mul_ends multiplied).sameSide.nonneg
        (mul_pos holidayPos overtimePos).le
    have time : 0 ≤ minutes.holidayOvertime := by
      unfold PayableMinutes.holidayOvertime
      split
      · exact overtimeTime
      · exact le_rfl
    exact sum_nonneg holidayAdded
      (bucketPay_nonneg_of_factor holidayTime rate holidayPos.le paidHoliday)
      (bucketPay_nonneg_of_factor time rate premium paidHolidayOvertime)
  refine ⟨regular, overtime, holiday, ?_⟩
  intro safe
  have earlyTime : 0 ≤ minutes.earlyNight := by
    unfold PayableMinutes.earlyNight nightBaseLimit
    omega
  have night : 0 ≤ b.night.value :=
    sum_nonneg nightAdded
      (bucketPay_nonneg_of_factor earlyTime rate nightPos.le paidEarly)
      (lateNight_nonneg rate safe nightSummed subtracted paidLate)
  have whole : 0 ≤ sum.value :=
    sum_nonneg summed
      (sum_nonneg mostAdded (sum_nonneg plainAdded regular overtime) night)
      holiday
  rw [rounded]
  exact ⟨night, roundWon_nonneg whole⟩

/-- Four hours of the night, of which the last is late. -/
def longNight : PayableMinutes :=
  ⟨0, 0, 240, 0⟩

/-- Factors of which night and overtime come to one just so. -/
def reducedFactors : Multipliers :=
  ⟨tenths 10, tenths 6, tenths 4, tenths 1⟩

/-- Where the factors come to one the last hour is paid with nothing. -/
theorem grossPay_reducedFactors :
    ∃ b, grossBreakdown longNight 10000 reducedFactors = .ok b ∧
      0 ≤ b.night.value ∧ 0 ≤ b.grossPay ∧ b.grossPay = 12000 := by
  have paid : (grossBreakdown longNight 10000 reducedFactors).toOption.map
      (fun b => b.grossPay) = some 12000 := by
    decide +kernel
  cases priced : grossBreakdown longNight 10000 reducedFactors with
  | error cause =>
      rw [priced] at paid
      cases paid
  | ok b =>
      rw [priced] at paid
      obtain ⟨_, _, _, safe⟩ :=
        grossPay_nonneg (by constructor <;> decide) (by decide) rfl priced
      obtain ⟨night, gross⟩ := safe (.inr (by decide +kernel))
      exact ⟨b, rfl, night, gross, Option.some.inj paid⟩

/-- A tenth of the rate for every kind of minutes. -/
def lowFactors : Multipliers :=
  ⟨tenths 1, tenths 1, tenths 1, tenths 1⟩

/-- Four factors above zero, and pay below zero: the last hour of the night
costs more than the first three bring in. -/
theorem grossPay_lowFactors :
    longNight.Nonnegative ∧ lowFactors.validate = .ok () ∧
      ∃ b, grossBreakdown longNight 10000 lowFactors = .ok b ∧
        b.night.value = -5000 ∧ b.grossPay = -5000 := by
  refine ⟨by constructor <;> decide, rfl, ?_⟩
  have paid : (grossBreakdown longNight 10000 lowFactors).toOption.map
      (fun b => (b.night.value, b.grossPay)) = some (-5000, -5000) := by
    decide +kernel
  cases priced : grossBreakdown longNight 10000 lowFactors with
  | error cause =>
      rw [priced] at paid
      cases paid
  | ok b =>
      rw [priced] at paid
      obtain ⟨night, gross⟩ := Prod.mk.inj (Option.some.inj paid)
      exact ⟨b, rfl, night, gross⟩

end Workforce
