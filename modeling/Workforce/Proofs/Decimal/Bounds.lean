import Workforce.Proofs.Decimal.Arithmetic

/-!
# Rounding and whole numbers

A result that cannot be held is rounded to a decimal, and an amount to a whole
number.  Neither leads past a whole number: what is at least `n` is rounded to
at least `n`, and what is at most `n` to at most `n`, because `n` is one of the
numbers that are rounded to.  So a rounded result is not negative if the exact
one is not, and a share of an amount is no more than the amount.

This holds however large the numbers are.  The bound on the rounding itself
(`Rounds`) does not give it.
-/

namespace Workforce

/-! ## Rounding to whole numbers -/

/-- To round a quotient does not take it below a whole number. -/
theorem le_roundHalfEven {n d q : Nat} (positive : 0 < d)
    (bounded : q * d ≤ n) : q ≤ roundHalfEven n d := by
  have quotient : q ≤ n / d := (Nat.le_div_iff_mul_le positive).2 bounded
  simp only [roundHalfEven]
  split
  · exact quotient
  · omega

theorem roundAway_neg (x : ℚ) : roundAway (-x) = -roundAway x := by
  unfold roundAway
  rcases lt_trichotomy x 0 with below | rfl | above
  · rw [if_neg (by linarith), if_pos below, neg_neg]
  · norm_num
  · rw [if_pos (by linarith), if_neg (by linarith), neg_neg]

theorem roundAway_le {x : ℚ} {n : Int} (bounded : x ≤ n) :
    roundAway x ≤ n := by
  have near := abs_le.1 (abs_sub_roundAway_le x)
  have less : (roundAway x : ℚ) < n + 1 := by
    linarith
  have less : roundAway x < n + 1 := by
    exact_mod_cast less
  omega

theorem le_roundAway {x : ℚ} {n : Int} (bounded : n ≤ x) :
    n ≤ roundAway x := by
  have negated : -x ≤ (-n : Int) := by
    push_cast
    linarith
  have turned := roundAway_le negated
  rw [roundAway_neg] at turned
  omega

namespace Decimal

/-! ## Signs -/

theorem value_nonneg_iff {d : Decimal} : 0 ≤ d.value ↔ 0 ≤ d.coefficient := by
  have positive : (0 : ℚ) < 10 ^ d.scale := by
    positivity
  rw [value, le_div_iff₀ positive, zero_mul]
  exact_mod_cast Iff.rfl

/-- A fraction is a number from zero to one. -/
theorem isFraction_iff {d : Decimal} :
    d.isFraction = true ↔ 0 ≤ d.value ∧ d.value ≤ 1 := by
  have positive : (0 : ℚ) < 10 ^ d.scale := by
    positivity
  rw [value_nonneg_iff, isFraction, Bool.and_eq_true, decide_eq_true_eq,
    decide_eq_true_eq, value, div_le_one positive]
  refine and_congr_right fun _ => ?_
  rw [← cast_tenTo]
  exact_mod_cast Iff.rfl

/-! ## Rounding to a decimal -/

theorem dropDigits_neg (c : Int) (k : Nat) :
    dropDigits (-c) k = -dropDigits c k := by
  rw [dropDigits, dropDigits, Int.sign_neg, Int.natAbs_neg, Int.neg_mul]

theorem dropDigits_le {c q : Int} {k : Nat} (bounded : c ≤ q * tenTo k) :
    dropDigits c k ≤ q := by
  have power := tenTo_pos k
  unfold dropDigits
  rcases lt_trichotomy c 0 with below | rfl | above
  · rw [Int.sign_eq_neg_one_of_neg below, Int.neg_one_mul]
    rcases le_or_gt 0 q with high | low
    · omega
    · -- Both sides are turned over, and what was below is above.
      have turned : q.natAbs * tenTo k ≤ c.natAbs := by
        have size : ((q.natAbs * tenTo k : Nat) : Int) ≤ c.natAbs := by
          push_cast
          rw [abs_of_neg low, abs_of_neg below]
          linarith
        exact_mod_cast size
      have rounded := le_roundHalfEven power turned
      omega
  · simp only [Int.sign_zero, Int.zero_mul]
    have scaled : 0 ≤ q * (tenTo k : Int) := bounded
    exact nonneg_of_mul_nonneg_left scaled (by exact_mod_cast power)
  · rw [Int.sign_eq_one_of_pos above, Int.one_mul]
    have positive : 0 < q :=
      (pos_iff_pos_of_mul_pos (lt_of_lt_of_le above bounded)).2
        (by exact_mod_cast power)
    have size : c.natAbs ≤ q.natAbs * tenTo k := by
      have size : (c.natAbs : Int) ≤ (q.natAbs * tenTo k : Nat) := by
        push_cast
        rw [abs_of_pos above, abs_of_pos positive]
        exact bounded
      exact_mod_cast size
    have rounded := roundHalfEven_le power size
    omega

theorem le_dropDigits {c q : Int} {k : Nat} (bounded : q * tenTo k ≤ c) :
    q ≤ dropDigits c k := by
  have turned : -c ≤ -q * tenTo k := by
    rw [Int.neg_mul]
    omega
  have dropped := dropDigits_le turned
  rw [dropDigits_neg] at dropped
  omega

/-- No whole number lies between `x` and the decimal that stands in for it. -/
structure SameSide (x : ℚ) (d : Decimal) : Prop where
  le : ∀ n : Int, x ≤ n → d.value ≤ n
  ge : ∀ n : Int, n ≤ x → n ≤ d.value

theorem SameSide.nonneg {x : ℚ} {d : Decimal} (side : SameSide x d)
    (nonnegative : 0 ≤ x) : 0 ≤ d.value := by
  exact_mod_cast side.ge 0 (by exact_mod_cast nonnegative)

theorem fit_sameSide {cause : Overflow} {c : Int} {s : Nat} {d : Decimal}
    (fitted : fit cause c s = .ok d) : SameSide (c / 10 ^ s) d := by
  obtain ⟨k, few, made, _⟩ := fit_eq_ok fitted
  have value := value_of_ofParts? made
  have whole : (0 : ℚ) < 10 ^ s := by
    positivity
  have kept : (0 : ℚ) < 10 ^ (s - k) := by
    positivity
  -- A whole number is written with the places that are kept.
  have written : ∀ n : Int,
      n * (tenTo s : Int) = n * (tenTo (s - k) : Int) * tenTo k := by
    intro n
    rw [← tenTo_sub_mul few]
    push_cast
    ring
  constructor
  · intro n bounded
    rw [div_le_iff₀ whole, ← cast_tenTo] at bounded
    have bounded : c ≤ n * (tenTo s : Int) := by
      exact_mod_cast bounded
    rw [written] at bounded
    rw [value, div_le_iff₀ kept, ← cast_tenTo]
    exact_mod_cast dropDigits_le bounded
  · intro n bounded
    rw [le_div_iff₀ whole, ← cast_tenTo] at bounded
    have bounded : n * (tenTo s : Int) ≤ c := by
      exact_mod_cast bounded
    rw [written] at bounded
    rw [value, le_div_iff₀ kept, ← cast_tenTo]
    exact_mod_cast le_dropDigits bounded

/-! ## Operations -/

theorem Ends.sameSide {x : ℚ} {d : Decimal} (ends : Ends x d) :
    SameSide x d := by
  cases ends with
  | same value =>
      rw [← value]
      exact ⟨fun _ bounded => bounded, fun _ bounded => bounded⟩
  | fitted fitted exact =>
      rw [← exact]
      exact fit_sameSide fitted
  | vanished value tiny =>
      -- A whole number that `x` does not reach is not reached by zero.
      have size := abs_lt.1 tiny
      have unit : (1 : ℚ) / 10 ^ 28 < 1 := by
        norm_num
      constructor
      · intro n bounded
        have above : (-1 : ℚ) < n := by
          linarith [size.1]
        have above : -1 < n := by
          exact_mod_cast above
        have above : 0 ≤ n := by
          omega
        rw [value]
        exact_mod_cast above
      · intro n bounded
        have below : (n : ℚ) < 1 := by
          linarith [size.2]
        have below : n < 1 := by
          exact_mod_cast below
        have below : n ≤ 0 := by
          omega
        rw [value]
        exact_mod_cast below

/-- A quotient of what is not negative is not negative. -/
theorem divWhole_nonneg {a d : Decimal} {n : Nat}
    (quotient : a.divWhole n = .ok d) (nonnegative : 0 ≤ a.value) :
    0 ≤ d.value := by
  have sign := value_nonneg_iff.1 nonnegative
  have fits : ∀ number : Nat × Nat,
      fit .division (a.coefficient.sign * (number.1 : Int)) number.2 =
        .ok d → 0 ≤ d.value := by
    intro number fitted
    refine (fit_sameSide fitted).nonneg ?_
    have digits : 0 ≤ a.coefficient.sign * (number.1 : Int) :=
      Int.mul_nonneg (Int.sign_nonneg_iff.2 sign) (Int.natCast_nonneg _)
    have digits : (0 : ℚ) ≤ (a.coefficient.sign * (number.1 : Int) : Int) := by
      exact_mod_cast digits
    positivity
  simp only [divWhole] at quotient
  split at quotient
  · cases quotient
    rw [value_zero]
  · split at quotient
    · exact fits (a.magnitude / n, a.scale) quotient
    · exact fits (stripBlocks (longDivide n (a.magnitude / n)
        (a.magnitude % n) a.scale)) quotient

end Decimal
end Workforce
