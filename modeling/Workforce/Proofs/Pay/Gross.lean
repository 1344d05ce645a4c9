import Workforce.Pay.Gross
import Workforce.Proofs.Decimal.Arithmetic
import Workforce.Proofs.Outcome

/-!
# Gross pay against the exact sum

Minutes are paid in six buckets, each at the hourly rate and a factor of its
own (`PayableMinutes.buckets`).  Their exact sum is a rational number, of which
pay should be the nearest whole number, a half away from zero.

Amounts are computed as decimals, though, and sixtieths may have no end there:
the amount of each bucket is rounded to what a decimal can hold.  This module
bounds what these roundings come to (`grossMargin`), and shows that pay is the
exact sum rounded once

* if the exact sum is further than that from all halves, or
* if every number on the way can be held as a decimal.

Neither can be left out: a half that is made of thirds and sixths is missed.
-/

namespace Workforce

/-! ## The exact sum -/

/-- Exact pay for minutes of one kind. -/
def exactPay (minutes hourlyRate : Int) (factor : ℚ) : ℚ :=
  minutes * hourlyRate * factor / 60

namespace PayableMinutes

/-- No minutes are negative. -/
structure Nonnegative (minutes : PayableMinutes) : Prop where
  regular : 0 ≤ minutes.regular
  overtime : 0 ≤ minutes.overtime
  night : 0 ≤ minutes.night
  holiday : 0 ≤ minutes.holiday

/-- Overtime that is not on a holiday. -/
def plainOvertime (minutes : PayableMinutes) : Int :=
  if 0 < minutes.holiday then 0 else minutes.overtime

/-- Overtime on a holiday. -/
def holidayOvertime (minutes : PayableMinutes) : Int :=
  if 0 < minutes.holiday then minutes.overtime else 0

/-- Night minutes that are paid as such. -/
def earlyNight (minutes : PayableMinutes) : Int :=
  min minutes.night nightBaseLimit

/-- Night minutes that are overtime too. -/
def lateNight (minutes : PayableMinutes) : Int :=
  max (minutes.night - nightBaseLimit) 0

end PayableMinutes

/-- The factor of night minutes that are overtime too. -/
def Multipliers.lateNight (m : Multipliers) : ℚ :=
  m.night.value + m.overtime.value - 1

/-- The factor of overtime on a holiday. -/
def Multipliers.holidayOvertime (m : Multipliers) : ℚ :=
  m.holiday.value * m.overtime.value

/-- The minutes of each bucket and the factor at which they are paid. -/
def PayableMinutes.paidAt (minutes : PayableMinutes) (m : Multipliers) :
    List (Int × ℚ) :=
  [(minutes.regular, m.regular.value),
    (minutes.plainOvertime, m.overtime.value),
    (minutes.earlyNight, m.night.value),
    (minutes.lateNight, m.lateNight),
    (minutes.holiday, m.holiday.value),
    (minutes.holidayOvertime, m.holidayOvertime)]

section ExactSum

variable (minutes : PayableMinutes) (hourlyRate : Int) (m : Multipliers)

/-- The exact pay for minutes that are neither at night nor on a holiday. -/
def exactPlain : ℚ :=
  exactPay minutes.regular hourlyRate m.regular.value +
    exactPay minutes.plainOvertime hourlyRate m.overtime.value

/-- The exact pay for night minutes. -/
def exactNight : ℚ :=
  exactPay minutes.earlyNight hourlyRate m.night.value +
    exactPay minutes.lateNight hourlyRate m.lateNight

/-- The exact pay for work on a holiday. -/
def exactHoliday : ℚ :=
  exactPay minutes.holiday hourlyRate m.holiday.value +
    exactPay minutes.holidayOvertime hourlyRate m.holidayOvertime

/-- The exact sum of all buckets. -/
def exactGross : ℚ :=
  exactPlain minutes hourlyRate m + exactNight minutes hourlyRate m +
    exactHoliday minutes hourlyRate m

/-- A factor that none of the buckets comes near. -/
def Multipliers.bound : ℚ :=
  (1 + m.regular.value) * (1 + m.overtime.value) * (1 + m.night.value) *
    (1 + m.holiday.value)

/-- What the roundings of all amounts come to at most. -/
def grossMargin : ℚ :=
  (1 + exactPay minutes.total hourlyRate m.bound) / 10 ^ 23

/-- Every number that the pay is computed through can be held as a decimal:
the factors, the amount of each bucket before and after it is divided, and the
sums. -/
structure HeldThroughout : Prop where
  factors : ∀ x ∈ [m.night.value + m.overtime.value, m.lateNight,
    m.holidayOvertime], Decimal.Held x
  amounts : ∀ b ∈ minutes.paidAt m,
    Decimal.Held (b.1 * hourlyRate * b.2) ∧
      Decimal.Held (exactPay b.1 hourlyRate b.2)
  sums : ∀ x ∈ [exactPlain minutes hourlyRate m,
    exactNight minutes hourlyRate m, exactHoliday minutes hourlyRate m,
    exactPlain minutes hourlyRate m + exactNight minutes hourlyRate m,
    exactGross minutes hourlyRate m], Decimal.Held x

end ExactSum

/-! ## One bucket -/

open Decimal (precision Held)

theorem Multipliers.value_pos {m : Multipliers} (valid : m.validate = .ok ()) :
    0 < m.regular.value ∧ 0 < m.overtime.value ∧ 0 < m.night.value ∧
      0 < m.holiday.value := by
  have positive : ∀ d : Decimal, d.isPositive = true → 0 < d.value := by
    intro d above
    simp only [Decimal.isPositive, decide_eq_true_eq] at above
    exact div_pos (by exact_mod_cast above) (by positivity)
  have all := Outcome.ensure_eq_ok.1 valid
  simp only [arePositive, List.all_cons, List.all_nil, Bool.and_eq_true,
    and_true] at all
  obtain ⟨regular, overtime, night, holiday⟩ := all
  exact ⟨positive _ regular, positive _ overtime, positive _ night,
    positive _ holiday⟩

section Bucket

variable {minutes hourlyRate : Int} {f d : Decimal}

/-- Minutes and rate are multiplied exactly. -/
theorem value_of_base {minutes hourlyRate : Int} {time rate base : Decimal}
    (timed : Decimal.ofInt minutes = .ok time)
    (rated : Decimal.ofInt hourlyRate = .ok rate)
    (based : time.mul rate = .ok base) :
    base.value = minutes * hourlyRate := by
  obtain ⟨timeCoefficient, timeWhole⟩ := Decimal.ofInt_eq_ok timed
  obtain ⟨rateCoefficient, rateWhole⟩ := Decimal.ofInt_eq_ok rated
  rw [Decimal.mul_whole based timeWhole rateWhole,
    Decimal.value_of_whole timeWhole, Decimal.value_of_whole rateWhole,
    timeCoefficient, rateCoefficient]

/-- The factor and the division by sixty may round. -/
theorem bucketPay_eq_ok (pay : bucketPay minutes hourlyRate f = .ok d) :
    ∃ base scaled : Decimal,
      base.value = minutes * hourlyRate ∧ base.mul f = .ok scaled ∧
        scaled.divWhole 60 = .ok d := by
  simp only [bucketPay, Overflow.bind_eq_ok] at pay
  obtain ⟨time, timed, rate, rated, base, based, scaled, product, pay⟩ := pay
  exact ⟨base, scaled, value_of_base timed rated based, product, pay⟩

theorem bucketPay_rounds (pay : bucketPay minutes hourlyRate f = .ok d) :
    ∃ scaled,
      Decimal.Rounds (minutes * hourlyRate * f.value) scaled ∧
        Decimal.Rounds (scaled.value / 60) d := by
  obtain ⟨base, scaled, exact, product, quotient⟩ := bucketPay_eq_ok pay
  refine ⟨scaled, ?_, ?_⟩
  · rw [← exact]
    exact Decimal.mul_rounds product
  · exact_mod_cast Decimal.divWhole_rounds (by decide) quotient

/-- A bucket is paid almost exactly if its factor is almost exact. -/
theorem bucketPay_near {factor bound : ℚ} (time : 0 ≤ minutes)
    (rate : 0 ≤ hourlyRate) (bounded : 1 + |factor| ≤ bound)
    (near : |f.value - factor| ≤ 4 * precision * bound)
    (pay : bucketPay minutes hourlyRate f = .ok d) :
    |d.value - exactPay minutes hourlyRate factor| ≤
      10 * precision * (1 + exactPay minutes hourlyRate bound) := by
  obtain ⟨scaled, product, quotient⟩ := bucketPay_rounds pay
  have positive : (0 : ℚ) ≤ (minutes : ℚ) * hourlyRate := by
    exact_mod_cast Int.mul_nonneg time rate
  unfold exactPay
  generalize (minutes : ℚ) * hourlyRate = base at *
  have large := abs_nonneg factor
  have weight : 0 ≤ base * bound :=
    mul_nonneg positive (by linarith)
  -- The factor as it is held is not much larger, nor far away.
  have held : |base * f.value| ≤ 2 * (base * bound) := by
    have triangle := abs_sub_abs_le_abs_sub f.value factor
    have twice : |f.value| ≤ 2 * bound := by
      unfold precision at near
      linarith
    rw [abs_mul, abs_of_nonneg positive]
    have scaled := mul_le_mul_of_nonneg_left twice positive
    linarith
  have moved : |base * f.value - base * factor| ≤
      4 * precision * (base * bound) := by
    rw [← mul_sub, abs_mul, abs_of_nonneg positive]
    have scaled := mul_le_mul_of_nonneg_left near positive
    linarith
  have first := product.near
  have second := quotient.near
  have reached : |scaled.value| ≤
      2 * (base * bound) + precision * (1 + 2 * (base * bound)) := by
    have triangle := abs_sub_abs_le_abs_sub scaled.value (base * f.value)
    unfold precision at *
    linarith
  have sixtieth : |scaled.value / 60 - base * factor / 60| ≤
      (precision * (1 + 2 * (base * bound)) +
        4 * precision * (base * bound)) / 60 := by
    rw [← sub_div, abs_div, abs_of_pos (by norm_num : (0 : ℚ) < 60)]
    have path := abs_sub_le scaled.value (base * f.value) (base * factor)
    unfold precision at *
    linarith
  have path := abs_sub_le d.value (scaled.value / 60) (base * factor / 60)
  rw [abs_div, abs_of_pos (by norm_num : (0 : ℚ) < 60)] at second
  unfold precision at *
  linarith

/-- A bucket is paid exactly if its factor is exact and its amount is held
before and after it is divided. -/
theorem bucketPay_exact {factor : ℚ} (same : f.value = factor)
    (scaledHeld : Held (minutes * hourlyRate * factor))
    (amountHeld : Held (exactPay minutes hourlyRate factor))
    (pay : bucketPay minutes hourlyRate f = .ok d) :
    d.value = exactPay minutes hourlyRate factor := by
  obtain ⟨scaled, product, quotient⟩ := bucketPay_rounds pay
  rw [same] at product
  rw [product.exact scaledHeld] at quotient
  exact quotient.exact amountHeld

end Bucket

/-! ## Factors -/

/-- The factor of late night minutes takes two operations. -/
theorem lateNight_near {m : Multipliers} {sum late : Decimal}
    (valid : m.validate = .ok ()) (added : m.night.add m.overtime = .ok sum)
    (subtracted : sum.sub Decimal.one = .ok late) :
    |late.value - m.lateNight| ≤
      4 * precision * (2 + m.night.value + m.overtime.value) := by
  obtain ⟨_, overtime, night, _⟩ := Multipliers.value_pos valid
  have first := (Decimal.add_rounds added).near
  have second := (Decimal.sub_rounds subtracted).near
  rw [Decimal.value_one] at second
  rw [abs_of_pos (by positivity : 0 < m.night.value + m.overtime.value)]
    at first
  have size : |sum.value - 1| ≤ m.night.value + m.overtime.value +
      precision * (1 + (m.night.value + m.overtime.value)) + 1 := by
    have near := abs_le.1 first
    rw [abs_le]
    constructor <;> linarith
  have path := abs_sub_le late.value (sum.value - 1) m.lateNight
  have step : |sum.value - 1 - m.lateNight| =
      |sum.value - (m.night.value + m.overtime.value)| := by
    congr 1
    rw [Multipliers.lateNight]
    ring
  rw [step] at path
  unfold precision at *
  linarith

theorem lateNight_exact {m : Multipliers} {sum late : Decimal}
    (sumHeld : Held (m.night.value + m.overtime.value))
    (lateHeld : Held m.lateNight) (added : m.night.add m.overtime = .ok sum)
    (subtracted : sum.sub Decimal.one = .ok late) :
    late.value = m.lateNight := by
  have second := (Decimal.sub_rounds subtracted).exact
  rw [(Decimal.add_rounds added).exact sumHeld, Decimal.value_one] at second
  exact second lateHeld

/-- No bucket has a factor that is more than twice the bound. -/
theorem Multipliers.le_bound {m : Multipliers}
    (valid : m.validate = .ok ()) :
    1 + m.regular.value ≤ m.bound ∧
      (1 + m.night.value) * (1 + m.overtime.value) ≤ m.bound ∧
      (1 + m.holiday.value) * (1 + m.overtime.value) ≤ m.bound := by
  obtain ⟨regular, overtime, night, holiday⟩ := value_pos valid
  have grows : ∀ {x y : ℚ}, 0 < x → 0 < y → 1 ≤ (1 + x) * (1 + y) := by
    intro x y left right
    have product := mul_pos left right
    linarith
  unfold bound
  refine ⟨?_, ?_, ?_⟩
  · calc 1 + m.regular.value
        = (1 + m.regular.value) * (1 * 1) := by
          ring
      _ ≤ (1 + m.regular.value) * ((1 + m.overtime.value) *
            ((1 + m.night.value) * (1 + m.holiday.value))) := by
          gcongr
          · linarith
          · exact grows night holiday
      _ = _ := by
          ring
  · calc (1 + m.night.value) * (1 + m.overtime.value)
        = (1 + m.night.value) * (1 + m.overtime.value) * 1 := by
          ring
      _ ≤ (1 + m.night.value) * (1 + m.overtime.value) *
            ((1 + m.regular.value) * (1 + m.holiday.value)) := by
          gcongr
          exact grows regular holiday
      _ = _ := by
          ring
  · calc (1 + m.holiday.value) * (1 + m.overtime.value)
        = (1 + m.holiday.value) * (1 + m.overtime.value) * 1 := by
          ring
      _ ≤ (1 + m.holiday.value) * (1 + m.overtime.value) *
            ((1 + m.regular.value) * (1 + m.night.value)) := by
          gcongr
          exact grows regular night
      _ = _ := by
          ring

/-- `m.Below bound`: no factor reaches twice the bound, and neither does the sum
from which that of late night minutes is computed. -/
structure Multipliers.Below (m : Multipliers) (bound : ℚ) : Prop where
  regular : 1 + m.regular.value ≤ 2 * bound
  night : 2 + m.night.value + m.overtime.value ≤ 2 * bound
  holiday : 1 + m.holiday.value ≤ 2 * bound
  holidayOvertime : 1 + m.holidayOvertime ≤ 2 * bound

theorem Multipliers.below_bound {m : Multipliers}
    (valid : m.validate = .ok ()) : m.Below m.bound := by
  obtain ⟨regular, overtime, night, holiday⟩ := value_pos valid
  obtain ⟨regularSmall, nightSmall, holidaySmall⟩ := le_bound valid
  have late := mul_pos night overtime
  have onHoliday := mul_pos holiday overtime
  refine ⟨?_, ?_, ?_, ?_⟩
  · linarith
  · linarith
  · linarith
  · rw [Multipliers.holidayOvertime]
    linarith

/-! ## Sums of amounts -/

/-- What a decimal is that is computed for the exact amount `x` on the way to
a total: it is off by so many roundings of the total at most, and exact if
everything on the way is held. -/
structure Computes (total : ℚ) (throughout : Prop) (roundings : ℚ)
    (d : Decimal) (x : ℚ) : Prop where
  size : |x| ≤ roundings * (1 + total)
  near : |d.value - x| ≤ roundings * (precision * (1 + total))
  exact : throughout → d.value = x

/-- A sum is off by what its terms are, and by one rounding more, which counts
the size of the sum. -/
theorem Computes.add {total : ℚ} {throughout : Prop} {a b d : Decimal}
    {x y k l : ℚ} (positive : 0 ≤ total)
    (left : Computes total throughout k a x)
    (right : Computes total throughout l b y)
    (held : throughout → Held (x + y)) (sum : a.add b = .ok d) :
    Computes total throughout (3 * (k + l) + 1) d (x + y) := by
  have rounds := Decimal.add_rounds sum
  obtain ⟨leftSize, leftNear, leftExact⟩ := left
  obtain ⟨rightSize, rightNear, rightExact⟩ := right
  have size : |x + y| ≤ (k + l) * (1 + total) := by
    have triangle := abs_add_le x y
    linarith
  have weight : 0 ≤ (k + l) * (1 + total) :=
    le_trans (abs_nonneg _) size
  refine ⟨by linarith, ?_, ?_⟩
  · have moved : |a.value + b.value - (x + y)| ≤
        (k + l) * (precision * (1 + total)) := by
      have apart : a.value + b.value - (x + y) =
          (a.value - x) + (b.value - y) := by
        ring
      have triangle := abs_add_le (a.value - x) (b.value - y)
      rw [apart]
      linarith
    have grown : |a.value + b.value| ≤
        (k + l) * (1 + total) + (k + l) * (precision * (1 + total)) := by
      have triangle := abs_sub_abs_le_abs_sub (a.value + b.value) (x + y)
      linarith
    have path := abs_sub_le d.value (a.value + b.value) (x + y)
    have last := rounds.near
    unfold precision at *
    linarith
  · intro all
    rw [leftExact all, rightExact all] at rounds
    exact rounds.exact (held all)

/-! ## Six buckets -/

section Buckets

variable {minutes : PayableMinutes} {hourlyRate : Int} {m : Multipliers}
  {bound : ℚ}

/-- Each bucket has some of the minutes. -/
theorem minutes_of_paidAt {bucket : Int} {factor : ℚ}
    (nonnegative : minutes.Nonnegative)
    (paid : (bucket, factor) ∈ minutes.paidAt m) :
    0 ≤ bucket ∧ bucket ≤ minutes.total := by
  obtain ⟨regular, overtime, night, holiday⟩ := nonnegative
  simp only [PayableMinutes.paidAt, PayableMinutes.plainOvertime,
    PayableMinutes.earlyNight, PayableMinutes.lateNight,
    PayableMinutes.holidayOvertime, nightBaseLimit, List.mem_cons,
    Prod.mk.injEq, List.not_mem_nil, or_false] at paid
  unfold PayableMinutes.total
  omega

/-- No factor reaches twice the bound. -/
theorem factor_of_paidAt {bucket : Int} {factor : ℚ}
    (valid : m.validate = .ok ()) (below : m.Below bound)
    (paid : (bucket, factor) ∈ minutes.paidAt m) :
    1 + |factor| ≤ 2 * bound := by
  obtain ⟨regular, overtime, night, holiday⟩ := Multipliers.value_pos valid
  obtain ⟨regularSmall, nightSmall, holidaySmall, bothSmall⟩ := below
  have onHoliday := mul_pos holiday overtime
  simp only [PayableMinutes.paidAt, List.mem_cons, Prod.mk.injEq,
    List.not_mem_nil, or_false] at paid
  rcases paid with ⟨_, rfl⟩ | ⟨_, rfl⟩ | ⟨_, rfl⟩ | ⟨_, rfl⟩ | ⟨_, rfl⟩ |
    ⟨_, rfl⟩
  · rw [abs_of_pos regular]
    linarith
  · rw [abs_of_pos overtime]
    linarith
  · rw [abs_of_pos night]
    linarith
  · have size : |m.lateNight| ≤ m.night.value + m.overtime.value + 1 := by
      rw [Multipliers.lateNight, abs_le]
      constructor <;> linarith
    linarith
  · rw [abs_of_pos holiday]
    linarith
  · rw [Multipliers.holidayOvertime] at bothSmall ⊢
    rw [abs_of_pos onHoliday]
    linarith

theorem exactPay_mono {minutes more : Int} {factor larger : ℚ}
    (rate : 0 ≤ hourlyRate) (time : 0 ≤ minutes) (longer : minutes ≤ more)
    (positive : 0 ≤ factor) (above : factor ≤ larger) :
    exactPay minutes hourlyRate factor ≤ exactPay more hourlyRate larger := by
  have rate : (0 : ℚ) ≤ hourlyRate := by
    exact_mod_cast rate
  have time : (0 : ℚ) ≤ minutes := by
    exact_mod_cast time
  have longer : (minutes : ℚ) ≤ more := by
    exact_mod_cast longer
  have more : (0 : ℚ) ≤ more := le_trans time longer
  unfold exactPay
  gcongr

/-- A bucket is off by twenty roundings at most. -/
theorem bucketPay_computes {bucket : Int} {f d : Decimal} {factor : ℚ}
    (nonnegative : minutes.Nonnegative) (rate : 0 < hourlyRate)
    (valid : m.validate = .ok ()) (below : m.Below bound)
    (paid : (bucket, factor) ∈ minutes.paidAt m)
    (near : |f.value - factor| ≤ 4 * precision * (2 * bound))
    (exact : HeldThroughout minutes hourlyRate m → f.value = factor)
    (pay : bucketPay bucket hourlyRate f = .ok d) :
    Computes (exactPay minutes.total hourlyRate bound)
      (HeldThroughout minutes hourlyRate m) 20 d
      (exactPay bucket hourlyRate factor) := by
  obtain ⟨time, part⟩ := minutes_of_paidAt nonnegative paid
  have bounded := factor_of_paidAt valid below paid
  have large := abs_nonneg factor
  have weight : exactPay bucket hourlyRate (2 * bound) ≤
      2 * exactPay minutes.total hourlyRate bound := by
    have grown := exactPay_mono rate.le time part
      (by linarith : 0 ≤ bound) le_rfl
    unfold exactPay at *
    linarith
  have amount : |exactPay bucket hourlyRate factor| ≤
      exactPay bucket hourlyRate (2 * bound) := by
    have base : (0 : ℚ) ≤ (bucket : ℚ) * hourlyRate := by
      exact_mod_cast Int.mul_nonneg time rate.le
    unfold exactPay
    rw [abs_div, abs_mul, abs_of_nonneg base,
      abs_of_pos (by norm_num : (0 : ℚ) < 60)]
    gcongr
    linarith
  refine ⟨?_, ?_, ?_⟩
  · have positive := abs_nonneg (exactPay bucket hourlyRate factor)
    linarith
  · have off := bucketPay_near time rate.le bounded near pay
    unfold precision at *
    linarith
  · intro throughout
    obtain ⟨scaledHeld, amountHeld⟩ := throughout.amounts _ paid
    exact bucketPay_exact (exact throughout) scaledHeld amountHeld pay

/-- A bucket that is paid at a factor as it is given. -/
theorem givenBucket_computes {bucket : Int} {f d : Decimal}
    (nonnegative : minutes.Nonnegative) (rate : 0 < hourlyRate)
    (valid : m.validate = .ok ()) (below : m.Below bound)
    (paid : (bucket, f.value) ∈ minutes.paidAt m)
    (pay : bucketPay bucket hourlyRate f = .ok d) :
    Computes (exactPay minutes.total hourlyRate bound)
      (HeldThroughout minutes hourlyRate m) 20 d
      (exactPay bucket hourlyRate f.value) := by
  have bounded := factor_of_paidAt valid below paid
  have large := abs_nonneg f.value
  refine bucketPay_computes nonnegative rate valid below paid ?_
    (fun _ => rfl) pay
  rw [sub_self, abs_zero, precision]
  linarith

/-- A chain that begins with a choice goes on alike from either side. -/
theorem ite_bind {α β : Type} {c : Prop} [Decidable c]
    (x y : Except Overflow α) (f : α → Except Overflow β) :
    (if c then x >>= f else y >>= f) = (if c then x else y) >>= f := by
  split
  · rfl
  · rfl

/-- What a breakdown is made of. -/
theorem grossBreakdown_eq_ok {b : GrossBreakdown}
    (priced : grossBreakdown minutes hourlyRate m = .ok b) :
    ∃ early late nightSum lateFactor holidayBase holidayOvertime
        holidayFactor plain most sum,
      bucketPay minutes.regular hourlyRate m.regular = .ok b.regular ∧
      (if 0 < minutes.holiday then b.overtime = Decimal.zero
        else bucketPay minutes.overtime hourlyRate m.overtime =
          .ok b.overtime) ∧
      bucketPay minutes.earlyNight hourlyRate m.night = .ok early ∧
      m.night.add m.overtime = .ok nightSum ∧
      nightSum.sub Decimal.one = .ok lateFactor ∧
      bucketPay minutes.lateNight hourlyRate lateFactor = .ok late ∧
      early.add late = .ok b.night ∧
      bucketPay minutes.holiday hourlyRate m.holiday = .ok holidayBase ∧
      m.holiday.mul m.overtime = .ok holidayFactor ∧
      bucketPay minutes.holidayOvertime hourlyRate holidayFactor =
        .ok holidayOvertime ∧
      holidayBase.add holidayOvertime = .ok b.holiday ∧
      b.regular.add b.overtime = .ok plain ∧
      plain.add b.night = .ok most ∧
      most.add b.holiday = .ok sum ∧
      b.grossPay = roundWon sum := by
  simp only [grossBreakdown, ite_bind, Overflow.bind_eq_ok,
    Overflow.pure_eq_ok] at priced
  obtain ⟨regular, paidRegular, overtime, paidOvertime, early, paidEarly,
    nightSum, added, lateFactor, subtracted, late, paidLate, night, nightAdded,
    holidayBase, paidHoliday, holidayFactor, multiplied, holidayOvertime,
    paidHolidayOvertime, holiday, holidayAdded, plain, plainAdded, most,
    mostAdded, sum, summed, rfl⟩ := priced
  refine ⟨early, late, nightSum, lateFactor, holidayBase, holidayOvertime,
    holidayFactor, plain, most, sum, paidRegular, ?_, paidEarly, added,
    subtracted, paidLate, nightAdded, paidHoliday, multiplied, ?_,
    holidayAdded, plainAdded, mostAdded, summed, rfl⟩
  · by_cases onHoliday : 0 < minutes.holiday
    · simp only [onHoliday, decide_true, if_true, Overflow.pure_eq_ok]
        at paidOvertime ⊢
      exact paidOvertime.symm
    · simpa [onHoliday] using paidOvertime
  · by_cases onHoliday : 0 < minutes.holiday
    · simpa [PayableMinutes.holidayOvertime, onHoliday]
        using paidHolidayOvertime
    · simpa [PayableMinutes.holidayOvertime, onHoliday]
        using paidHolidayOvertime

theorem exactPay_total_nonneg (nonnegative : minutes.Nonnegative)
    (rate : 0 < hourlyRate) (valid : m.validate = .ok ())
    (below : m.Below bound) :
    0 ≤ exactPay minutes.total hourlyRate bound := by
  obtain ⟨regular, _, _, _⟩ := Multipliers.value_pos valid
  have small := below.regular
  have time : (0 : ℚ) ≤ minutes.total := by
    obtain ⟨one, two, three, four⟩ := nonnegative
    have sum : 0 ≤ minutes.total := by
      unfold PayableMinutes.total
      omega
    exact_mod_cast sum
  have rate : (0 : ℚ) < hourlyRate := by
    exact_mod_cast rate
  have positive : 0 ≤ bound := by
    linarith
  unfold exactPay
  positivity

theorem total_pay_nonneg (nonnegative : minutes.Nonnegative)
    (rate : 0 < hourlyRate) (valid : m.validate = .ok ()) :
    0 ≤ exactPay minutes.total hourlyRate m.bound :=
  exactPay_total_nonneg nonnegative rate valid (Multipliers.below_bound valid)

/-- The pay for minutes that are neither at night nor on a holiday. -/
private theorem plain_computes {regular overtime plain : Decimal}
    (nonnegative : minutes.Nonnegative) (rate : 0 < hourlyRate)
    (valid : m.validate = .ok ()) (below : m.Below bound)
    (paidRegular : bucketPay minutes.regular hourlyRate m.regular =
      .ok regular)
    (paidOvertime : if 0 < minutes.holiday then overtime = Decimal.zero
      else bucketPay minutes.overtime hourlyRate m.overtime = .ok overtime)
    (added : regular.add overtime = .ok plain) :
    Computes (exactPay minutes.total hourlyRate bound)
      (HeldThroughout minutes hourlyRate m) 121 plain
      (exactPlain minutes hourlyRate m) := by
  have total := exactPay_total_nonneg nonnegative rate valid below
  have left := givenBucket_computes nonnegative rate valid below
    (by simp [PayableMinutes.paidAt]) paidRegular
  have right : Computes (exactPay minutes.total hourlyRate bound)
      (HeldThroughout minutes hourlyRate m) 20 overtime
      (exactPay minutes.plainOvertime hourlyRate m.overtime.value) := by
    by_cases onHoliday : 0 < minutes.holiday
    · rw [if_pos onHoliday] at paidOvertime
      have nothing : exactPay minutes.plainOvertime hourlyRate
          m.overtime.value = 0 := by
        simp [exactPay, PayableMinutes.plainOvertime, onHoliday]
      rw [paidOvertime, nothing]
      refine ⟨?_, ?_, fun _ => Decimal.value_zero⟩
      · rw [abs_zero]
        positivity
      · rw [Decimal.value_zero, sub_zero, abs_zero, precision]
        positivity
    · rw [if_neg onHoliday] at paidOvertime
      have plain : minutes.plainOvertime = minutes.overtime :=
        if_neg onHoliday
      rw [← plain] at paidOvertime
      exact givenBucket_computes nonnegative rate valid below
        (by simp [PayableMinutes.paidAt]) paidOvertime
  have sum := left.add total right
    (fun throughout => throughout.sums _ (by simp [exactPlain])) added
  norm_num at sum
  exact sum

/-- The pay for night minutes. -/
private theorem night_computes {early late nightSum lateFactor night : Decimal}
    (nonnegative : minutes.Nonnegative) (rate : 0 < hourlyRate)
    (valid : m.validate = .ok ()) (below : m.Below bound)
    (paidEarly : bucketPay minutes.earlyNight hourlyRate m.night = .ok early)
    (summed : m.night.add m.overtime = .ok nightSum)
    (subtracted : nightSum.sub Decimal.one = .ok lateFactor)
    (paidLate : bucketPay minutes.lateNight hourlyRate lateFactor = .ok late)
    (added : early.add late = .ok night) :
    Computes (exactPay minutes.total hourlyRate bound)
      (HeldThroughout minutes hourlyRate m) 121 night
      (exactNight minutes hourlyRate m) := by
  have small := below.night
  have total := exactPay_total_nonneg nonnegative rate valid below
  have left := givenBucket_computes nonnegative rate valid below
    (by simp [PayableMinutes.paidAt]) paidEarly
  have near : |lateFactor.value - m.lateNight| ≤
      4 * precision * (2 * bound) := by
    have off := lateNight_near valid summed subtracted
    unfold precision at *
    linarith
  have exact : HeldThroughout minutes hourlyRate m →
      lateFactor.value = m.lateNight := by
    intro throughout
    exact lateNight_exact (throughout.factors _ (by simp))
      (throughout.factors _ (by simp)) summed subtracted
  have right := bucketPay_computes nonnegative rate valid below
    (by simp [PayableMinutes.paidAt]) near exact paidLate
  have sum := left.add total right
    (fun throughout => throughout.sums _ (by simp [exactNight])) added
  norm_num at sum
  exact sum

/-- The pay for work on a holiday. -/
private theorem holiday_computes
    {base factor overtime holiday : Decimal}
    (nonnegative : minutes.Nonnegative) (rate : 0 < hourlyRate)
    (valid : m.validate = .ok ()) (below : m.Below bound)
    (paidBase : bucketPay minutes.holiday hourlyRate m.holiday = .ok base)
    (multiplied : m.holiday.mul m.overtime = .ok factor)
    (paidOvertime : bucketPay minutes.holidayOvertime hourlyRate factor =
      .ok overtime)
    (added : base.add overtime = .ok holiday) :
    Computes (exactPay minutes.total hourlyRate bound)
      (HeldThroughout minutes hourlyRate m) 121 holiday
      (exactHoliday minutes hourlyRate m) := by
  have total := exactPay_total_nonneg nonnegative rate valid below
  have left := givenBucket_computes nonnegative rate valid below
    (by simp [PayableMinutes.paidAt]) paidBase
  have rounds := Decimal.mul_rounds multiplied
  have paid : (minutes.holidayOvertime, m.holidayOvertime) ∈
      minutes.paidAt m := by
    simp [PayableMinutes.paidAt]
  have near : |factor.value - m.holidayOvertime| ≤
      4 * precision * (2 * bound) := by
    have off := rounds.near
    have size := factor_of_paidAt valid below paid
    have positive := abs_nonneg m.holidayOvertime
    unfold Multipliers.holidayOvertime precision at *
    linarith
  have exact : HeldThroughout minutes hourlyRate m →
      factor.value = m.holidayOvertime := by
    intro throughout
    exact rounds.exact (throughout.factors _
      (by simp [Multipliers.holidayOvertime]))
  have right := bucketPay_computes nonnegative rate valid below paid near
    exact paidOvertime
  have sum := left.add total right
    (fun throughout => throughout.sums _ (by simp [exactHoliday])) added
  norm_num at sum
  exact sum

theorem gross_computes_of_below {b : GrossBreakdown}
    (nonnegative : minutes.Nonnegative) (rate : 0 < hourlyRate)
    (valid : m.validate = .ok ()) (below : m.Below bound)
    (priced : grossBreakdown minutes hourlyRate m = .ok b) :
    ∃ sum,
      b.grossPay = roundWon sum ∧
        Computes (exactPay minutes.total hourlyRate bound)
          (HeldThroughout minutes hourlyRate m) 2545 sum
          (exactGross minutes hourlyRate m) := by
  obtain ⟨early, late, nightSum, lateFactor, holidayBase, holidayOvertime,
    holidayFactor, plain, most, sum, paidRegular, paidOvertime, paidEarly,
    nightSummed, subtracted, paidLate, nightAdded, paidHoliday, multiplied,
    paidHolidayOvertime, holidayAdded, plainAdded, mostAdded, summed,
    rounded⟩ := grossBreakdown_eq_ok priced
  refine ⟨sum, rounded, ?_⟩
  have total := exactPay_total_nonneg nonnegative rate valid below
  have plainPay := plain_computes nonnegative rate valid below paidRegular
    paidOvertime plainAdded
  have nightPay := night_computes nonnegative rate valid below paidEarly
    nightSummed subtracted paidLate nightAdded
  have holidayPay := holiday_computes nonnegative rate valid below paidHoliday
    multiplied paidHolidayOvertime holidayAdded
  have most := plainPay.add total nightPay
    (fun throughout => throughout.sums _ (by simp)) mostAdded
  have all := most.add total holidayPay
    (fun throughout => throughout.sums _ (by simp [exactGross])) summed
  norm_num at all
  exact all

theorem gross_computes {b : GrossBreakdown}
    (nonnegative : minutes.Nonnegative) (rate : 0 < hourlyRate)
    (valid : m.validate = .ok ())
    (priced : grossBreakdown minutes hourlyRate m = .ok b) :
    ∃ sum,
      b.grossPay = roundWon sum ∧
        Computes (exactPay minutes.total hourlyRate m.bound)
          (HeldThroughout minutes hourlyRate m) 2545 sum
          (exactGross minutes hourlyRate m) :=
  gross_computes_of_below nonnegative rate valid
    (Multipliers.below_bound valid) priced

/-- Gross pay takes 64 bits. -/
theorem grossPay_within {b : GrossBreakdown}
    (priced : grossBreakdown minutes hourlyRate m = .ok b) :
    minInt64 ≤ b.grossPay ∧ b.grossPay ≤ maxInt64 := by
  obtain ⟨_, _, _, _, _, _, _, _, _, sum, _, _, _, _, _, _, _, _, _, _, _, _,
    _, _, rounded⟩ := grossBreakdown_eq_ok priced
  rw [rounded, roundWon, saturate]
  unfold minInt64 maxInt64
  omega

end Buckets

/-! ## Gross pay -/

/-- Pay is the exact sum of the buckets, rounded once to the nearest whole
number with a half away from zero, if the sum keeps its distance from all
halves, or if every number on the way can be held. -/
theorem grossPay_rounded_once {minutes : PayableMinutes} {hourlyRate : Int}
    {m : Multipliers} {b : GrossBreakdown}
    (nonnegative : minutes.Nonnegative) (rate : 0 < hourlyRate)
    (valid : m.validate = .ok ())
    (priced : grossBreakdown minutes hourlyRate m = .ok b)
    (least : minInt64 ≤ roundAway (exactGross minutes hourlyRate m))
    (greatest : roundAway (exactGross minutes hourlyRate m) ≤ maxInt64)
    (safe : ClearOfHalves (exactGross minutes hourlyRate m)
        (grossMargin minutes hourlyRate m) ∨
      HeldThroughout minutes hourlyRate m) :
    b.grossPay = roundAway (exactGross minutes hourlyRate m) := by
  obtain ⟨sum, rounded, computes⟩ :=
    gross_computes nonnegative rate valid priced
  have same : roundAway sum.value =
      roundAway (exactGross minutes hourlyRate m) := by
    rcases safe with clear | throughout
    · refine roundAway_eq_of_clear clear (le_trans computes.near ?_)
      have total := total_pay_nonneg nonnegative rate valid
      unfold grossMargin precision
      linarith
    · rw [computes.exact throughout]
  rw [rounded, roundWon, Decimal.roundHalfAway_eq, same]
  unfold saturate
  omega

/-- A regular minute and one of overtime, neither of which is paid in whole
won. -/
def twoMinutes : PayableMinutes :=
  ⟨1, 1, 0, 0⟩

theorem grossPay_twoMinutes :
    ∃ b, grossBreakdown twoMinutes 10001 Multipliers.standard = .ok b ∧
      b.grossPay = 417 := by
  have some : (grossBreakdown twoMinutes 10001
      Multipliers.standard).isOk = true := by
    decide +kernel
  cases priced : grossBreakdown twoMinutes 10001 Multipliers.standard with
  | error cause =>
      rw [priced] at some
      cases some
  | ok b =>
      have rounded : roundAway (exactGross twoMinutes 10001
          Multipliers.standard) = 417 := by
        decide +kernel
      have clear : ClearOfHalves
          (exactGross twoMinutes 10001 Multipliers.standard)
          (grossMargin twoMinutes 10001 Multipliers.standard) :=
        @clearOfHalves_of_between _ _ 416 (by decide +kernel)
          (by decide +kernel)
      have paid := grossPay_rounded_once (by constructor <;> decide)
        (by decide) rfl priced (by rw [rounded]; decide)
        (by rw [rounded]; decide) (.inl clear)
      exact ⟨b, rfl, paid.trans rounded⟩

/-- A shift into the night with a minute of overtime. -/
def nightShift : PayableMinutes :=
  ⟨62, 1, 185, 0⟩

/-- A number of tenths, written with one place. -/
def tenths (n : Int) : Decimal :=
  (Decimal.ofParts? n 1).getD Decimal.zero

/-- Factors with one place. -/
def premiums : Multipliers :=
  ⟨tenths 10, tenths 20, tenths 12, tenths 20⟩

/-- Without either condition a won may be missing: these buckets come to thirds
and sixths whose exact sum ends in a half. -/
theorem grossPay_nightShift :
    nightShift.Nonnegative ∧ premiums.validate = .ok () ∧
      (∃ b, grossBreakdown nightShift 10030 premiums = .ok b ∧
        b.grossPay = 48645) ∧
      exactGross nightShift 10030 premiums = 48645 + 1 / 2 ∧
      roundAway (exactGross nightShift 10030 premiums) = 48646 := by
  refine ⟨by constructor <;> decide, rfl, ?_, by decide +kernel,
    by decide +kernel⟩
  have paid : (grossBreakdown nightShift 10030 premiums).toOption.map
      (fun b => b.grossPay) = some 48645 := by
    decide +kernel
  cases priced : grossBreakdown nightShift 10030 premiums with
  | error cause =>
      rw [priced] at paid
      cases paid
  | ok b =>
      rw [priced] at paid
      exact ⟨b, rfl, Option.some.inj paid⟩

end Workforce
