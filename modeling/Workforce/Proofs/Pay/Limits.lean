import Workforce.Proofs.Decimal.Overflow
import Workforce.Proofs.Pay.Sign

/-!
# How much can be paid

Pay is computed through products of minutes, rate and factors, of which none is
bounded by what is checked before.  This module says from where on the decimals
are too small for them, in exact numbers: nothing overflows if all of them are
at most `79 * 10 ^ 27` (`grossBreakdown_of_within`), and something does if one
of them is above `8 * 10 ^ 28` (`payWithin_of_grossBreakdown`).  The limit of
96 bits lies in between.  It is not itself the dividing line, because two of
the factors are computed and may be rounded.

Only what happens before the division by sixty can overflow.  Sums of amounts
that have been divided stay far below the limit (`grossBreakdown_of_buckets`).
-/

namespace Workforce

open Decimal (Fits precision)

/-! ## One bucket -/

section Bucket

variable {minutes hourlyRate : Int} {f : Decimal}

/-- A bucket overflows exactly if one of the numbers it is computed through
does not fit: minutes, rate, and their product without the factor and with
it. -/
theorem bucketPay_ok_iff :
    (∃ d, bucketPay minutes hourlyRate f = .ok d) ↔
      Fits minutes ∧ Fits hourlyRate ∧ Fits (minutes * hourlyRate) ∧
        Fits (minutes * hourlyRate * f.value) := by
  constructor
  · rintro ⟨d, pay⟩
    simp only [bucketPay, Overflow.bind_eq_ok] at pay
    obtain ⟨time, timed, rate, rated, base, based, scaled, product, _⟩ := pay
    have exact := value_of_base timed rated based
    rw [← exact]
    exact ⟨Decimal.ofInt_ok_iff.1 ⟨_, timed⟩,
      Decimal.ofInt_ok_iff.1 ⟨_, rated⟩, Decimal.fits_value base,
      Decimal.mul_ok_iff.1 ⟨_, product⟩⟩
  · rintro ⟨timeFits, rateFits, baseFits, scaledFits⟩
    obtain ⟨time, timed⟩ := Decimal.ofInt_ok_iff.2 timeFits
    obtain ⟨rate, rated⟩ := Decimal.ofInt_ok_iff.2 rateFits
    obtain ⟨base, based⟩ : ∃ d, time.mul rate = .ok d := by
      obtain ⟨timeCoefficient, timeWhole⟩ := Decimal.ofInt_eq_ok timed
      obtain ⟨rateCoefficient, rateWhole⟩ := Decimal.ofInt_eq_ok rated
      rw [Decimal.mul_ok_iff, Decimal.value_of_whole timeWhole,
        Decimal.value_of_whole rateWhole, timeCoefficient, rateCoefficient]
      exact baseFits
    obtain ⟨scaled, product⟩ : ∃ d, base.mul f = .ok d := by
      rw [Decimal.mul_ok_iff, value_of_base timed rated based]
      exact scaledFits
    obtain ⟨d, quotient⟩ := Decimal.divWhole_ok scaled (n := 60) (by decide)
    refine ⟨d, ?_⟩
    simp only [bucketPay, Overflow.bind_eq_ok]
    exact ⟨time, timed, rate, rated, base, based, scaled, product, quotient⟩

/-- A sixtieth of what fits is far from the limit. -/
theorem abs_bucketPay_le {d : Decimal}
    (pay : bucketPay minutes hourlyRate f = .ok d) :
    |d.value| ≤ (2 * 10 ^ 27 : Nat) := by
  obtain ⟨_, scaled, _, _, quotient⟩ := bucketPay_eq_ok pay
  have near := (Decimal.divWhole_rounds (by decide) quotient).near
  have size := Decimal.fits_value scaled
  rw [Nat.cast_ofNat, abs_div, abs_of_pos (by norm_num : (0 : ℚ) < 60)]
    at near
  have triangle := abs_sub_abs_le_abs_sub d.value (scaled.value / 60)
  rw [abs_div, abs_of_pos (by norm_num : (0 : ℚ) < 60)] at triangle
  have limit : (Decimal.limit : ℚ) ≤ 8 * 10 ^ 28 := by
    norm_num [Decimal.limit]
  unfold Fits at size
  unfold precision at near
  push_cast
  linarith

/-- Amounts that are small together are added, and the sum is no larger than
both. -/
theorem sum_of_small {a b : Decimal} {x y : Nat} (left : |a.value| ≤ x)
    (right : |b.value| ≤ y) (small : x + y < Decimal.limit) :
    ∃ d, a.add b = .ok d ∧ |d.value| ≤ (x + y : Nat) := by
  have size : |a.value + b.value| ≤ ((x + y : Nat) : Int) := by
    have triangle := abs_add_le a.value b.value
    push_cast
    linarith
  have fits : Fits (a.value + b.value) := by
    have less : ((x + y : Nat) : ℚ) + 1 ≤ Decimal.limit := by
      exact_mod_cast small
    have size : |a.value + b.value| ≤ ((x + y : Nat) : ℚ) := by
      exact_mod_cast size
    unfold Fits
    linarith
  obtain ⟨d, sum⟩ := Decimal.add_ok_iff.2 fits
  have side := (Decimal.add_ends sum).sameSide
  obtain ⟨above, below⟩ := abs_le.1 size
  refine ⟨d, sum, abs_le.2 ⟨?_, ?_⟩⟩
  · exact_mod_cast side.ge (-((x + y : Nat) : Int)) (by exact_mod_cast above)
  · exact_mod_cast side.le ((x + y : Nat) : Int) below

end Bucket

/-! ## All buckets -/

section Buckets

variable {minutes : PayableMinutes} {hourlyRate : Int} {m : Multipliers}

/-- If the factors can be put together and no bucket overflows then nothing
does: sums of what is divided by sixty are small. -/
theorem grossBreakdown_of_buckets
    {nightSum lateFactor holidayFactor regular overtime early late holiday
      holidayOvertime : Decimal}
    (added : m.night.add m.overtime = .ok nightSum)
    (subtracted : nightSum.sub Decimal.one = .ok lateFactor)
    (multiplied : m.holiday.mul m.overtime = .ok holidayFactor)
    (paidRegular : bucketPay minutes.regular hourlyRate m.regular =
      .ok regular)
    (paidOvertime : bucketPay minutes.plainOvertime hourlyRate m.overtime =
      .ok overtime)
    (paidEarly : bucketPay minutes.earlyNight hourlyRate m.night = .ok early)
    (paidLate : bucketPay minutes.lateNight hourlyRate lateFactor = .ok late)
    (paidHoliday : bucketPay minutes.holiday hourlyRate m.holiday =
      .ok holiday)
    (paidHolidayOvertime : bucketPay minutes.holidayOvertime hourlyRate
      holidayFactor = .ok holidayOvertime) :
    ∃ b, grossBreakdown minutes hourlyRate m = .ok b := by
  obtain ⟨plainOvertime, chosen, overtimeSmall⟩ : ∃ d,
      (if 0 < minutes.holiday then pure Decimal.zero
        else bucketPay minutes.overtime hourlyRate m.overtime) = .ok d ∧
      |d.value| ≤ (2 * 10 ^ 27 : Nat) := by
    by_cases onHoliday : 0 < minutes.holiday
    · refine ⟨Decimal.zero, if_pos onHoliday, ?_⟩
      rw [Decimal.value_zero, abs_zero]
      positivity
    · rw [PayableMinutes.plainOvertime, if_neg onHoliday] at paidOvertime
      rw [if_neg onHoliday]
      exact ⟨overtime, paidOvertime, abs_bucketPay_le paidOvertime⟩
  obtain ⟨night, nightAdded, nightSmall⟩ := sum_of_small
    (abs_bucketPay_le paidEarly) (abs_bucketPay_le paidLate) (by decide)
  obtain ⟨onHoliday, holidayAdded, holidaySmall⟩ := sum_of_small
    (abs_bucketPay_le paidHoliday) (abs_bucketPay_le paidHolidayOvertime)
    (by decide)
  obtain ⟨plain, plainAdded, plainSmall⟩ := sum_of_small
    (abs_bucketPay_le paidRegular) overtimeSmall (by decide)
  obtain ⟨most, mostAdded, mostSmall⟩ :=
    sum_of_small plainSmall nightSmall (by decide)
  obtain ⟨sum, summed, _⟩ := sum_of_small mostSmall holidaySmall (by decide)
  rw [PayableMinutes.holidayOvertime] at paidHolidayOvertime
  simp only [grossBreakdown, ite_bind, Overflow.bind_eq_ok,
    Overflow.pure_eq_ok, decide_eq_true_eq]
  exact ⟨_, regular, paidRegular, plainOvertime, chosen, early, paidEarly,
    nightSum, added, lateFactor, subtracted, late, paidLate, night,
    nightAdded, holiday, paidHoliday, holidayFactor, multiplied,
    holidayOvertime, paidHolidayOvertime, onHoliday, holidayAdded, plain,
    plainAdded, most, mostAdded, sum, summed, rfl⟩

end Buckets

/-! ## Factors as they are computed -/

/-- A factor that took two operations at most is close to the exact one. -/
def FactorNear (f : Decimal) (factor : ℚ) : Prop :=
  |f.value - factor| ≤ 4 * precision * (3 + |factor|)

section Factors

variable {f : Decimal} {factor base : ℚ}

theorem FactorNear.of_value (f : Decimal) : FactorNear f f.value := by
  unfold FactorNear precision
  rw [sub_self, abs_zero]
  positivity

/-- The factor as it is computed makes little difference to an amount. -/
theorem FactorNear.amount (near : FactorNear f factor) (positive : 0 ≤ base) :
    |base * f.value - base * factor| ≤
      4 * precision * (3 * base + |base * factor|) := by
  have scaled := mul_le_mul_of_nonneg_left near positive
  rw [← mul_sub, abs_mul, abs_mul, abs_of_nonneg positive]
  linarith

/-- An amount fits if it keeps some distance from the limit. -/
theorem FactorNear.fits (near : FactorNear f factor) (positive : 0 ≤ base)
    (plain : base ≤ 79 * 10 ^ 27)
    (amount : |base * factor| ≤ 79 * 10 ^ 27) : Fits (base * f.value) := by
  have off := near.amount positive
  have triangle := abs_sub_abs_le_abs_sub (base * f.value) (base * factor)
  have limit : (792 * 10 ^ 26 : ℚ) ≤ Decimal.limit := by
    norm_num [Decimal.limit]
  unfold precision at off
  unfold Fits
  linarith

/-- An amount that fits does not exceed the limit by much. -/
theorem FactorNear.amount_le (near : FactorNear f factor)
    (positive : 0 ≤ base) (plain : Fits base) (fits : Fits (base * f.value)) :
    |base * factor| ≤ 8 * 10 ^ 28 := by
  have off := near.amount positive
  have triangle := abs_sub_abs_le_abs_sub (base * factor) (base * f.value)
  rw [abs_sub_comm] at triangle
  have limit : (Decimal.limit : ℚ) ≤ 793 * 10 ^ 26 := by
    norm_num [Decimal.limit]
  unfold Fits at plain fits
  rw [abs_of_nonneg positive] at plain
  unfold precision at off
  linarith

variable {m : Multipliers} {sum late : Decimal}

theorem lateFactor_near (valid : m.validate = .ok ())
    (added : m.night.add m.overtime = .ok sum)
    (subtracted : sum.sub Decimal.one = .ok late) :
    FactorNear late m.lateNight := by
  have off := lateNight_near valid added subtracted
  have size := le_abs_self m.lateNight
  unfold FactorNear
  rw [Multipliers.lateNight] at size ⊢
  rw [Multipliers.lateNight] at off
  unfold precision at *
  linarith

theorem holidayFactor_near
    (multiplied : m.holiday.mul m.overtime = .ok sum) :
    FactorNear sum m.holidayOvertime := by
  have off := (Decimal.mul_rounds multiplied).near
  have positive := abs_nonneg m.holidayOvertime
  unfold FactorNear
  unfold Multipliers.holidayOvertime precision at *
  linarith

end Factors

/-! ## The limits -/

/-- `PayWithin bound minutes hourlyRate m`: none of the exact numbers that pay
is computed through is above a bound: the rate, the factors that are put
together, and what each bucket comes to without its factor and with it, before
it is divided by sixty. -/
structure PayWithin (bound : ℚ) (minutes : PayableMinutes) (hourlyRate : Int)
    (m : Multipliers) : Prop where
  rate : hourlyRate ≤ bound
  night : m.night.value + m.overtime.value ≤ bound
  holidayOvertime : m.holidayOvertime ≤ bound
  plain : ∀ b ∈ minutes.paidAt m, (b.1 * hourlyRate : ℚ) ≤ bound
  amounts : ∀ b ∈ minutes.paidAt m, |b.1 * hourlyRate * b.2| ≤ bound

section Limits

variable {minutes : PayableMinutes} {hourlyRate : Int} {m : Multipliers}

/-- A bucket within the bound can be paid. -/
theorem PayWithin.bucketPay_ok {bucket : Int} {factor : ℚ} {f : Decimal}
    (within : PayWithin (79 * 10 ^ 27) minutes hourlyRate m)
    (nonnegative : minutes.Nonnegative) (rate : 0 < hourlyRate)
    (paid : (bucket, factor) ∈ minutes.paidAt m)
    (near : FactorNear f factor) :
    ∃ d, bucketPay bucket hourlyRate f = .ok d := by
  obtain ⟨time, _⟩ := minutes_of_paidAt nonnegative paid
  have time : (0 : ℚ) ≤ bucket := by
    exact_mod_cast time
  have rate : (1 : ℚ) ≤ hourlyRate := by
    exact_mod_cast rate
  have small : (hourlyRate : ℚ) ≤ 79 * 10 ^ 27 := within.rate
  have plain : (bucket * hourlyRate : ℚ) ≤ 79 * 10 ^ 27 :=
    within.plain (bucket, factor) paid
  have amount : |(bucket * hourlyRate * factor : ℚ)| ≤ 79 * 10 ^ 27 :=
    within.amounts (bucket, factor) paid
  have least : (bucket : ℚ) ≤ bucket * hourlyRate :=
    le_mul_of_one_le_right time rate
  have positive : (0 : ℚ) ≤ bucket * hourlyRate := le_trans time least
  have limit : (792 * 10 ^ 26 : ℚ) ≤ Decimal.limit := by
    norm_num [Decimal.limit]
  have scaled := near.fits positive plain amount
  rw [bucketPay_ok_iff]
  refine ⟨?_, ?_, ?_, scaled⟩
  · rw [Fits, abs_of_nonneg time]
    linarith
  · rw [Fits, abs_of_pos (by linarith)]
    linarith
  · rw [Fits, abs_of_nonneg positive]
    linarith

/-- Nothing overflows if all numbers keep some distance from the limit. -/
theorem grossBreakdown_of_within (nonnegative : minutes.Nonnegative)
    (rate : 0 < hourlyRate) (valid : m.validate = .ok ())
    (within : PayWithin (79 * 10 ^ 27) minutes hourlyRate m) :
    ∃ b, grossBreakdown minutes hourlyRate m = .ok b := by
  obtain ⟨_, overtimePos, nightPos, holidayPos⟩ :=
    Multipliers.value_pos valid
  have limit : (792 * 10 ^ 26 : ℚ) ≤ Decimal.limit := by
    norm_num [Decimal.limit]
  obtain ⟨nightSum, added⟩ : ∃ d, m.night.add m.overtime = .ok d := by
    have size := within.night
    rw [Decimal.add_ok_iff, Fits, abs_of_pos (add_pos nightPos overtimePos)]
    linarith
  obtain ⟨lateFactor, subtracted⟩ : ∃ d,
      nightSum.sub Decimal.one = .ok d := by
    have positive : 0 ≤ nightSum.value :=
      sum_nonneg added nightPos.le overtimePos.le
    have fits := Decimal.fits_value nightSum
    rw [Fits, abs_of_nonneg positive] at fits
    rw [Decimal.sub_ok_iff, Decimal.value_one, Fits, abs_lt]
    constructor <;> linarith
  obtain ⟨holidayFactor, multiplied⟩ : ∃ d,
      m.holiday.mul m.overtime = .ok d := by
    have size := within.holidayOvertime
    rw [Multipliers.holidayOvertime] at size
    rw [Decimal.mul_ok_iff, Fits, abs_of_pos (mul_pos holidayPos overtimePos)]
    linarith
  have bucket : ∀ (time : Int) (factor : ℚ) (f : Decimal),
      (time, factor) ∈ minutes.paidAt m → FactorNear f factor →
        ∃ d, bucketPay time hourlyRate f = .ok d := by
    intro time factor f paid near
    exact within.bucketPay_ok nonnegative rate paid near
  obtain ⟨_, paidRegular⟩ := bucket minutes.regular _ m.regular
    (by simp [PayableMinutes.paidAt]) (.of_value _)
  obtain ⟨_, paidOvertime⟩ := bucket minutes.plainOvertime _ m.overtime
    (by simp [PayableMinutes.paidAt]) (.of_value _)
  obtain ⟨_, paidEarly⟩ := bucket minutes.earlyNight _ m.night
    (by simp [PayableMinutes.paidAt]) (.of_value _)
  obtain ⟨_, paidLate⟩ := bucket minutes.lateNight m.lateNight lateFactor
    (by simp [PayableMinutes.paidAt])
    (lateFactor_near valid added subtracted)
  obtain ⟨_, paidHoliday⟩ := bucket minutes.holiday _ m.holiday
    (by simp [PayableMinutes.paidAt]) (.of_value _)
  obtain ⟨_, paidHolidayOvertime⟩ := bucket minutes.holidayOvertime
    m.holidayOvertime holidayFactor (by simp [PayableMinutes.paidAt])
    (holidayFactor_near multiplied)
  exact grossBreakdown_of_buckets added subtracted multiplied paidRegular
    paidOvertime paidEarly paidLate paidHoliday paidHolidayOvertime

/-- The exact numbers of a bucket that was paid. -/
theorem bucket_within {bucket : Int} {factor : ℚ} {f d : Decimal}
    (time : 0 ≤ bucket) (rate : 0 < hourlyRate) (near : FactorNear f factor)
    (pay : bucketPay bucket hourlyRate f = .ok d) :
    (bucket * hourlyRate : ℚ) ≤ 8 * 10 ^ 28 ∧
      |(bucket * hourlyRate * factor : ℚ)| ≤ 8 * 10 ^ 28 := by
  obtain ⟨_, _, base, scaled⟩ := bucketPay_ok_iff.1 ⟨_, pay⟩
  have positive : (0 : ℚ) ≤ bucket * hourlyRate := by
    exact_mod_cast Int.mul_nonneg time rate.le
  refine ⟨?_, near.amount_le positive base scaled⟩
  have limit : (Decimal.limit : ℚ) ≤ 8 * 10 ^ 28 := by
    norm_num [Decimal.limit]
  rw [Fits, abs_of_nonneg positive] at base
  linarith

/-- Where nothing overflows no number exceeds the limit by much. -/
theorem payWithin_of_grossBreakdown {b : GrossBreakdown}
    (nonnegative : minutes.Nonnegative) (rate : 0 < hourlyRate)
    (valid : m.validate = .ok ())
    (priced : grossBreakdown minutes hourlyRate m = .ok b) :
    PayWithin (8 * 10 ^ 28) minutes hourlyRate m := by
  obtain ⟨early, late, nightSum, lateFactor, holidayBase, holidayOvertime,
    holidayFactor, _, _, _, paidRegular, paidOvertime, paidEarly, added,
    subtracted, paidLate, _, paidHoliday, multiplied, paidHolidayOvertime,
    _⟩ := grossBreakdown_eq_ok priced
  have limit : (Decimal.limit : ℚ) ≤ 8 * 10 ^ 28 := by
    norm_num [Decimal.limit]
  have fits_le : ∀ {x : ℚ}, Fits x → x ≤ 8 * 10 ^ 28 := by
    intro x fits
    have size := le_abs_self x
    unfold Fits at fits
    linarith
  have bucket : ∀ b ∈ minutes.paidAt m,
      (b.1 * hourlyRate : ℚ) ≤ 8 * 10 ^ 28 ∧
        |(b.1 * hourlyRate * b.2 : ℚ)| ≤ 8 * 10 ^ 28 := by
    rintro ⟨time, factor⟩ paid
    have least := (minutes_of_paidAt nonnegative paid).1
    simp only [PayableMinutes.paidAt, List.mem_cons, Prod.mk.injEq,
      List.not_mem_nil, or_false] at paid
    rcases paid with ⟨rfl, rfl⟩ | ⟨rfl, rfl⟩ | ⟨rfl, rfl⟩ | ⟨rfl, rfl⟩ |
      ⟨rfl, rfl⟩ | ⟨rfl, rfl⟩
    · exact bucket_within least rate (.of_value _) paidRegular
    · by_cases onHoliday : 0 < minutes.holiday
      · have none : minutes.plainOvertime = 0 := if_pos onHoliday
        norm_num [none]
      · have same : minutes.plainOvertime = minutes.overtime :=
          if_neg onHoliday
        rw [if_neg onHoliday, ← same] at paidOvertime
        exact bucket_within least rate (.of_value _) paidOvertime
    · exact bucket_within least rate (.of_value _) paidEarly
    · exact bucket_within least rate
        (lateFactor_near valid added subtracted) paidLate
    · exact bucket_within least rate (.of_value _) paidHoliday
    · exact bucket_within least rate (holidayFactor_near multiplied)
        paidHolidayOvertime
  exact
    { rate := fits_le (bucketPay_ok_iff.1 ⟨_, paidRegular⟩).2.1
      night := fits_le (Decimal.add_ok_iff.1 ⟨_, added⟩)
      holidayOvertime := fits_le (Decimal.mul_ok_iff.1 ⟨_, multiplied⟩)
      plain := fun b paid => (bucket b paid).1
      amounts := fun b paid => (bucket b paid).2 }

end Limits
end Workforce
