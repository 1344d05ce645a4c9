import Workforce.Proofs.Decimal.Bounds

/-!
# When an operation overflows

An operation gives up places before it gives up, so it overflows only if its
exact result is not rounded to a whole number of 96 bits (`Fits`).  This module
shows that nothing but the values of the operands decides on it: neither their
places nor how they are written (`mul_ok_iff`, `add_ok_iff`, `sub_ok_iff`).  A
quotient by a whole number never overflows (`divWhole_ok`).
-/

namespace Workforce

/-! ## Rounding to 96 bits -/

/-- A quotient is rounded below an even number exactly if it lies below the
half before that number; the half itself goes to the even number. -/
theorem roundHalfEven_lt_iff {n d q : Nat} (positive : 0 < d) (some : 0 < q)
    (even : q % 2 = 0) :
    roundHalfEven n d < q ↔ 2 * n + d < 2 * (q * d) := by
  obtain ⟨p, rfl⟩ : ∃ p, q = p + 1 := ⟨q - 1, by omega⟩
  have split := Nat.div_add_mod n d
  have left := Nat.mod_lt n positive
  rw [Nat.mul_comm] at split
  rcases Nat.lt_trichotomy (n / d) p with below | same | above
  · have reach : (n / d + 1) * d ≤ p * d := Nat.mul_le_mul_right d below
    have rounded : roundHalfEven n d ≤ p :=
      roundHalfEven_le positive (by rw [Nat.add_mul] at reach; omega)
    rw [Nat.add_mul] at reach ⊢
    constructor <;> intro _ <;> omega
  · simp only [roundHalfEven]
    rw [same] at split ⊢
    rw [Nat.add_mul]
    split
    · constructor <;> intro _ <;> omega
    · constructor <;> intro _ <;> omega
  · have reach : (p + 1) * d ≤ n / d * d := Nat.mul_le_mul_right d above
    have rounded : p + 1 ≤ roundHalfEven n d :=
      le_roundHalfEven positive (by omega)
    constructor <;> intro _ <;> omega

namespace Decimal

/-- A number that is rounded to a whole number of 96 bits. -/
def Fits (x : ℚ) : Prop :=
  |x| < limit - 1 / 2

/-- The value of a decimal fits. -/
theorem fits_value (d : Decimal) : Fits d.value := by
  have power : (1 : ℚ) ≤ 10 ^ d.scale := one_le_pow₀ (by norm_num)
  have size : (d.magnitude : ℚ) + 1 ≤ limit := by
    exact_mod_cast d.magnitude_lt
  have less : (d.magnitude : ℚ) / 10 ^ d.scale ≤ d.magnitude :=
    div_le_self (Nat.cast_nonneg _) power
  rw [Fits, abs_value]
  linarith

theorem abs_div_tenTo (c : Int) (s : Nat) :
    |(c : ℚ) / 10 ^ s| = c.natAbs / 10 ^ s := by
  rw [abs_div, ← Int.cast_abs, Int.abs_eq_natAbs, Int.cast_natCast,
    abs_of_pos (by positivity : (0 : ℚ) < 10 ^ s)]

/-- Without places a coefficient is small enough exactly if the number fits. -/
theorem roundHalfEven_lt_limit_iff {c : Int} {s : Nat} :
    roundHalfEven c.natAbs (tenTo s) < limit ↔ Fits (c / 10 ^ s) := by
  have power : (0 : ℚ) < 10 ^ s := by
    positivity
  rw [roundHalfEven_lt_iff (tenTo_pos s) (by decide) (by decide), Fits,
    abs_div_tenTo, div_lt_iff₀ power, ← cast_tenTo]
  constructor
  · intro less
    have less : (2 * c.natAbs + tenTo s : ℚ) < 2 * (limit * tenTo s) := by
      exact_mod_cast less
    linarith
  · intro less
    have less : (2 * c.natAbs + tenTo s : ℚ) < 2 * (limit * tenTo s) := by
      linarith
    exact_mod_cast less

/-- A number overflows exactly if it does not fit. -/
theorem fit_ok_iff {cause : Overflow} {c : Int} {s : Nat} :
    (∃ d, fit cause c s = .ok d) ↔ Fits (c / 10 ^ s) := by
  constructor
  · rintro ⟨d, fitted⟩
    obtain ⟨k, few, made, _⟩ := fit_eq_ok fitted
    have value := value_of_ofParts? made
    rcases Nat.eq_or_lt_of_le few with rfl | more
    · rw [← roundHalfEven_lt_limit_iff]
      have small : (dropDigits c k).natAbs < limit := by
        by_contra large
        rw [ofParts?_eq_none.2 (.inl (not_lt.1 large))] at made
        cases made
      rcases lt_trichotomy c 0 with below | rfl | above
      · rw [dropDigits, Int.sign_eq_neg_one_of_neg below] at small
        omega
      · exact lt_of_le_of_lt
          (roundHalfEven_le (q := 0) (tenTo_pos k) (by simp)) (by decide)
      · rw [dropDigits, Int.sign_eq_one_of_pos above] at small
        omega
    · -- With a place left the number is far below the limit.
      have near := fit_near fitted
      have tenth : |d.value| ≤ limit / 10 := by
        rw [abs_value, (ofParts?_eq_some made).2]
        have size : (d.magnitude : ℚ) ≤ limit := by
          exact_mod_cast d.magnitude_lt.le
        have power : (10 : ℚ) ^ 1 ≤ 10 ^ (s - k) :=
          pow_le_pow_right₀ (by norm_num) (by omega)
        calc (d.magnitude : ℚ) / 10 ^ (s - k) ≤ limit / 10 ^ 1 := by
              gcongr
          _ = limit / 10 := by
              rw [pow_one]
      have triangle := abs_sub_abs_le_abs_sub ((c : ℚ) / 10 ^ s) d.value
      rw [abs_sub_comm] at triangle
      have limit_large : (10 : ℚ) ^ 28 ≤ limit := by
        norm_num [limit]
      unfold precision at near
      rw [Fits]
      linarith
  · intro fits
    exact fit_of_small (roundHalfEven_lt_limit_iff.2 fits)

/-! ## Operations -/

/-- A whole number of 96 bits is a decimal. -/
theorem ofInt_ok_iff {n : Int} : (∃ d, ofInt n = .ok d) ↔ Fits n := by
  rw [ofInt, fit_ok_iff, pow_zero, div_one]

/-- How an operation goes about an exact result `x`: it has a decimal for it
that is none too large, or it leaves it to `fit`. -/
inductive Attempts (x : ℚ) (result : Except Overflow Decimal) : Prop where
  | given {d : Decimal} (given : result = .ok d) (fits : Fits x) :
      Attempts x result
  | fitting {cause : Overflow} {c : Int} {s : Nat}
      (fitting : result = fit cause c s) (exact : (c : ℚ) / 10 ^ s = x) :
      Attempts x result

theorem Attempts.ok_iff {x : ℚ} {result : Except Overflow Decimal}
    (attempts : Attempts x result) : (∃ d, result = .ok d) ↔ Fits x := by
  cases attempts with
  | given given fits =>
      exact ⟨fun _ => fits, fun _ => ⟨_, given⟩⟩
  | fitting fitting exact =>
      rw [fitting, fit_ok_iff, exact]

theorem mul_ok_iff {a b : Decimal} :
    (∃ d, a.mul b = .ok d) ↔ Fits (a.value * b.value) := by
  apply Attempts.ok_iff
  unfold mul
  split
  · rename_i zero
    apply Attempts.given rfl
    rw [← value_mul_of_zero zero]
    exact fits_value Decimal.zero
  · split
    · rename_i narrow
      apply Attempts.given rfl
      refine lt_trans (tiny_of_narrow narrow) ?_
      norm_num [limit]
    · exact .fitting rfl (coefficient_mul_div a b)

theorem add_ok_iff {a b : Decimal} :
    (∃ d, a.add b = .ok d) ↔ Fits (a.value + b.value) := by
  apply Attempts.ok_iff
  unfold add
  split
  · rename_i zero
    apply Attempts.given rfl
    rw [value_of_magnitude_eq_zero zero, zero_add]
    exact fits_value b
  · split
    · rename_i zero
      apply Attempts.given rfl
      rw [value_of_magnitude_eq_zero zero, add_zero]
      exact fits_value a
    · exact .fitting rfl (coefficientAt_add_div a b)

theorem sub_ok_iff {a b : Decimal} :
    (∃ d, a.sub b = .ok d) ↔ Fits (a.value - b.value) := by
  apply Attempts.ok_iff
  unfold sub
  split
  · rename_i zero
    apply Attempts.given rfl
    rw [value_of_magnitude_eq_zero zero, zero_sub, ← value_neg]
    exact fits_value b.neg
  · split
    · rename_i zero
      apply Attempts.given rfl
      rw [value_of_magnitude_eq_zero zero, sub_zero]
      exact fits_value a
    · exact .fitting rfl (coefficientAt_sub_div a b)

/-- The digits of a quotient fit, with its sign. -/
private theorem fits_of_digits {c : Int} {number : Nat × Nat}
    (small : digitsValue number < limit - 1 / 2) :
    Fits ((c.sign * (number.1 : Int) : Int) / 10 ^ number.2) := by
  have sign : c.sign.natAbs ≤ 1 := by
    rcases Int.sign_trichotomy c with one | none | minus
    · simp [one]
    · simp [none]
    · simp [minus]
  have size : ((c.sign * (number.1 : Int)).natAbs : ℚ) ≤ number.1 := by
    rw [Int.natAbs_mul, Int.natAbs_natCast]
    exact_mod_cast Nat.mul_le_mul_right number.1 sign |>.trans_eq
      (Nat.one_mul number.1)
  rw [Fits, abs_div_tenTo]
  refine lt_of_le_of_lt ?_ small
  unfold digitsValue
  gcongr

/-- A quotient by a whole number does not overflow. -/
theorem divWhole_ok (a : Decimal) {n : Nat} (positive : 0 < n) :
    ∃ d, a.divWhole n = .ok d := by
  have bounded := fits_value a
  rw [Fits, abs_value] at bounded
  simp only [divWhole]
  split
  · exact ⟨_, rfl⟩
  · split
    · rw [fit_ok_iff]
      refine @fits_of_digits _ (a.magnitude / n, a.scale) ?_
      refine lt_of_le_of_lt ?_ bounded
      have less : ((a.magnitude / n : Nat) : ℚ) ≤ a.magnitude := by
        exact_mod_cast Nat.div_le_self a.magnitude n
      unfold digitsValue
      gcongr
    · rename_i uneven
      rw [fit_ok_iff]
      apply fits_of_digits
      -- Something is left over, so that it is divided by two at least.
      have two : 2 ≤ n := by
        by_contra less
        obtain rfl : n = 1 := by
          omega
        exact uneven (Nat.mod_one _)
      have near := (@longDivide_rounds n (a.magnitude / n)
        (a.magnitude % n) a.scale (Nat.mod_lt _ positive) a.scale_le).1
      rw [standing_start a positive, abs_abs, abs_div, abs_value,
        Nat.abs_cast] at near
      rw [digitsValue_stripBlocks]
      have half : (a.magnitude : ℚ) / 10 ^ a.scale / n ≤
          a.magnitude / 10 ^ a.scale / 2 := by
        have two : (2 : ℚ) ≤ n := by
          exact_mod_cast two
        gcongr
      have least := (abs_le.1 near).2
      have large : (10 : ℚ) ^ 28 ≤ limit := by
        norm_num [limit]
      unfold precision at least
      linarith

end Decimal
end Workforce
