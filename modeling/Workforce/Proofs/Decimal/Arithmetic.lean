import Workforce.Proofs.Decimal.Rounding

/-!
# The operations round

Each operation on decimals, if it does not overflow, gives the exact result on
the values up to rounding (`Rounds`): `mul_rounds`, `add_rounds`, `sub_rounds`
and `divWhole_rounds`.  Products of whole numbers are exact, and the nearest
whole number to a decimal is that to its value.
-/

namespace Workforce

/-! ## Chains of operations -/

namespace Overflow

variable {α β : Type}

/-- A computation has a value if every step of it has one. -/
theorem bind_eq_ok {x : Except Overflow α} {f : α → Except Overflow β}
    {b : β} : x >>= f = .ok b ↔ ∃ a, x = .ok a ∧ f a = .ok b := by
  cases x with
  | error cause =>
      simp [bind, Except.bind]
  | ok a =>
      simp [bind, Except.bind]

theorem pure_eq_ok {a b : α} :
    (pure a : Except Overflow α) = .ok b ↔ a = b := by
  simp [pure, Except.pure]

end Overflow

namespace Decimal

/-! ## Whole numbers -/

theorem ofInt_eq_ok {n : Int} {d : Decimal} (made : ofInt n = .ok d) :
    d.coefficient = n ∧ d.scale = 0 :=
  value_of_fit_whole made

theorem value_of_whole {d : Decimal} (whole : d.scale = 0) :
    d.value = d.coefficient := by
  rw [value, whole, pow_zero, div_one]

theorem roundHalfAway_eq (d : Decimal) :
    d.roundHalfAway = roundAway d.value := by
  have floor := roundHalfUp_eq_floor d.magnitude (tenTo_pos d.scale)
  rw [cast_tenTo, ← abs_value] at floor
  rw [roundHalfAway, floor]
  have positive : (0 : ℚ) < 10 ^ d.scale := by
    positivity
  unfold roundAway
  rcases lt_trichotomy d.coefficient 0 with below | zero | above
  · have negative : d.value < 0 :=
      div_neg_of_neg_of_pos (by exact_mod_cast below) positive
    rw [if_pos negative, abs_of_neg negative,
      Int.sign_eq_neg_one_of_neg below, Int.neg_one_mul]
  · have value : d.value = 0 :=
      value_of_magnitude_eq_zero (coefficient_eq_zero.1 zero)
    rw [zero, value]
    norm_num
  · have positive : 0 < d.value :=
      div_pos (by exact_mod_cast above) positive
    rw [if_neg positive.le.not_gt, abs_of_pos positive,
      Int.sign_eq_one_of_pos above, Int.one_mul]

/-! ## Endings -/

/-- How an operation ends whose exact result is `x`: with a decimal that stands
for it, with what `fit` makes of it, or with zero where next to nothing is left
of it. -/
inductive Ends (x : ℚ) (d : Decimal) : Prop where
  | same (value : d.value = x) : Ends x d
  | fitted {cause : Overflow} {c : Int} {s : Nat}
      (fitted : fit cause c s = .ok d) (exact : (c : ℚ) / 10 ^ s = x) :
      Ends x d
  | vanished (value : d.value = 0) (tiny : |x| < 1 / 10 ^ 28) : Ends x d

theorem Ends.rounds {x : ℚ} {d : Decimal} (ends : Ends x d) :
    Rounds x d := by
  cases ends with
  | same value =>
      exact Rounds.of_eq value
  | fitted fitted exact =>
      rw [← exact]
      exact fit_rounds fitted
  | vanished value tiny =>
      refine ⟨?_, ?_⟩
      · rw [value, zero_sub, abs_neg]
        have positive := abs_nonneg x
        rw [precision]
        linarith
      · intro held
        rw [value]
        by_contra nonzero
        exact absurd (held.le_abs fun zero => nonzero zero.symm) tiny.not_ge

/-! ## Products -/

@[simp]
theorem value_zero : zero.value = 0 :=
  value_of_magnitude_eq_zero rfl

@[simp]
theorem value_one : one.value = 1 := by
  norm_num [value, coefficient, one]

theorem value_mul_of_zero {a b : Decimal}
    (zero : a.magnitude = 0 ∨ b.magnitude = 0) :
    Decimal.zero.value = a.value * b.value := by
  rw [value_zero]
  rcases zero with left | right
  · rw [value_of_magnitude_eq_zero left, zero_mul]
  · rw [value_of_magnitude_eq_zero right, mul_zero]

/-- A product that is taken for zero is less than half a unit in the last
place. -/
theorem tiny_of_narrow {a b : Decimal}
    (narrow : a.isNarrow && b.isNarrow && decide (47 < a.scale + b.scale)) :
    |a.value * b.value| < 1 / 10 ^ 28 := by
  simp only [isNarrow, Bool.and_eq_true, decide_eq_true_eq] at narrow
  obtain ⟨⟨left, right⟩, places⟩ := narrow
  have product : (a.magnitude : ℚ) * b.magnitude ≤ 2 ^ 32 * 2 ^ 32 := by
    gcongr
    · exact_mod_cast left.le
    · exact_mod_cast right.le
  have scale : (10 : ℚ) ^ 48 ≤ 10 ^ (a.scale + b.scale) :=
    pow_le_pow_right₀ (by norm_num) places
  rw [abs_mul, abs_value, abs_value, div_mul_div_comm, ← pow_add]
  calc _ ≤ (2 ^ 32 * 2 ^ 32 : ℚ) / 10 ^ 48 := by
        gcongr
    _ < 1 / 10 ^ 28 := by
        norm_num

/-- The product of the coefficients stands for the product. -/
theorem coefficient_mul_div (a b : Decimal) :
    ((a.coefficient * b.coefficient : Int) : ℚ) / 10 ^ (a.scale + b.scale) =
      a.value * b.value := by
  rw [value, value, div_mul_div_comm, ← pow_add]
  push_cast
  rfl

theorem mul_ends {a b d : Decimal} (product : a.mul b = .ok d) :
    Ends (a.value * b.value) d := by
  unfold mul at product
  split at product
  · rename_i zero
    cases product
    exact .same (value_mul_of_zero zero)
  · split at product
    · rename_i narrow
      cases product
      exact .vanished value_zero (tiny_of_narrow narrow)
    · exact .fitted product (coefficient_mul_div a b)

theorem mul_rounds {a b d : Decimal} (product : a.mul b = .ok d) :
    Rounds (a.value * b.value) d :=
  (mul_ends product).rounds

/-- A product of whole numbers is exact. -/
theorem mul_whole {a b d : Decimal} (product : a.mul b = .ok d)
    (left : a.scale = 0) (right : b.scale = 0) :
    d.value = a.value * b.value := by
  unfold mul at product
  rw [left, right] at product
  split at product
  · rename_i zero
    cases product
    exact value_mul_of_zero zero
  · obtain ⟨coefficient, whole⟩ := value_of_fit_whole (by simpa using product)
    rw [value_of_whole whole, value_of_whole left, value_of_whole right,
      coefficient]
    push_cast
    rfl

/-! ## Sums and differences -/

theorem coefficientAt_div {d : Decimal} {scale : Nat}
    (enough : d.scale ≤ scale) :
    (d.coefficientAt scale : ℚ) / 10 ^ scale = d.value := by
  rw [coefficientAt, value, ← pow_mul_pow_sub (10 : ℚ) enough]
  push_cast
  rw [cast_tenTo]
  field_simp

/-- In the places of the term that has more, coefficients add up. -/
theorem coefficientAt_add_div (a b : Decimal) :
    ((a.coefficientAt (max a.scale b.scale) +
        b.coefficientAt (max a.scale b.scale) : Int) : ℚ) /
      10 ^ max a.scale b.scale = a.value + b.value := by
  push_cast
  rw [add_div, coefficientAt_div (Nat.le_max_left _ _),
    coefficientAt_div (Nat.le_max_right _ _)]

theorem coefficientAt_sub_div (a b : Decimal) :
    ((a.coefficientAt (max a.scale b.scale) -
        b.coefficientAt (max a.scale b.scale) : Int) : ℚ) /
      10 ^ max a.scale b.scale = a.value - b.value := by
  push_cast
  rw [sub_div, coefficientAt_div (Nat.le_max_left _ _),
    coefficientAt_div (Nat.le_max_right _ _)]

theorem add_ends {a b d : Decimal} (sum : a.add b = .ok d) :
    Ends (a.value + b.value) d := by
  unfold add at sum
  split at sum
  · rename_i zero
    cases sum
    apply Ends.same
    rw [value_of_magnitude_eq_zero zero, zero_add]
  · split at sum
    · rename_i zero
      cases sum
      apply Ends.same
      rw [value_of_magnitude_eq_zero zero, add_zero]
    · exact .fitted sum (coefficientAt_add_div a b)

theorem add_rounds {a b d : Decimal} (sum : a.add b = .ok d) :
    Rounds (a.value + b.value) d :=
  (add_ends sum).rounds

theorem value_neg (d : Decimal) : d.neg.value = -d.value := by
  unfold neg
  split
  · rename_i zero
    rw [value_of_magnitude_eq_zero zero, neg_zero]
  · unfold value coefficient
    cases d.negative with
    | false =>
        simp [neg_div]
    | true =>
        simp [neg_div]

theorem sub_ends {a b d : Decimal} (difference : a.sub b = .ok d) :
    Ends (a.value - b.value) d := by
  unfold sub at difference
  split at difference
  · rename_i zero
    cases difference
    apply Ends.same
    rw [value_of_magnitude_eq_zero zero, value_neg, zero_sub]
  · split at difference
    · rename_i zero
      cases difference
      apply Ends.same
      rw [value_of_magnitude_eq_zero zero, sub_zero]
    · exact .fitted difference (coefficientAt_sub_div a b)

theorem sub_rounds {a b d : Decimal} (difference : a.sub b = .ok d) :
    Rounds (a.value - b.value) d :=
  (sub_ends difference).rounds

/-! ## Long division -/

/-- The value of a number given by its digits and its places. -/
def digitsValue (number : Nat × Nat) : ℚ :=
  number.1 / 10 ^ number.2

theorem digitsValue_stripZeros (n : Nat) (number : Nat × Nat) :
    digitsValue (stripZeros n number) = digitsValue number := by
  unfold stripZeros
  split
  · rename_i zeros
    obtain ⟨places, multiple⟩ := zeros
    have digits : (number.1 : ℚ) = (number.1 / tenTo n : Nat) * 10 ^ n := by
      rw [← cast_tenTo]
      exact_mod_cast (Nat.div_mul_cancel (Nat.dvd_of_mod_eq_zero multiple)).symm
    rw [digitsValue, digitsValue, digits, ← pow_sub_mul_pow (10 : ℚ) places]
    field_simp
  · rfl

/-- To take zeros off is no change of the value. -/
theorem digitsValue_stripBlocks (number : Nat × Nat) :
    digitsValue (stripBlocks number) = digitsValue number := by
  have eight : ∀ n, digitsValue (stripEight n) = digitsValue n := by
    intro n
    unfold stripEight
    split
    · exact digitsValue_stripZeros 8 n
    · rfl
  simp only [stripBlocks, digitsValue_stripZeros, eight]

/-- The digits are widened as long as there is room for a digit more. -/
theorem full_of_widening_eq_zero {quotient room : Nat}
    (none : widening quotient room = 0) :
    room = 0 ∨ limit ≤ 10 * quotient := by
  by_contra more
  rw [not_or, not_le] at more
  obtain ⟨some, small⟩ := more
  have one : quotient * tenTo 1 < limit := by
    rw [show tenTo 1 = 10 from rfl]
    omega
  unfold widening at none
  cases found : (List.range (min 9 room + 1)).reverse.find? fun p =>
      decide (quotient * tenTo p < limit) with
  | none =>
      have refused := List.find?_eq_none.1 found 1 (by simp; omega)
      exact refused (decide_eq_true one)
  | some p =>
      rw [found, Option.getD_some] at none
      subst none
      obtain ⟨_, i, bound, zero, before⟩ :=
        List.find?_eq_some_iff_getElem.1 found
      simp only [List.length_reverse, List.length_range] at bound
      simp only [List.getElem_reverse, List.getElem_range,
        List.length_range] at zero
      -- Just before the end of the list there is one.
      have refused := before (i - 1) (by omega)
      have last : min 9 room + 1 - 1 - (i - 1) = 1 := by
        omega
      simp only [List.getElem_reverse, List.getElem_range,
        List.length_range, last] at refused
      simp [one] at refused

/-- What long division stands for on its way: the digits so far and the
remainder, in the places so far. -/
def standing (divisor quotient remainder scale : Nat) : ℚ :=
  (quotient + (remainder : ℚ) / divisor) / 10 ^ scale

section LongDivision

variable {divisor quotient remainder scale : Nat}

theorem standing_nonneg :
    0 ≤ standing divisor quotient remainder scale := by
  unfold standing
  positivity

/-- A block of places does not change what the division stands for. -/
theorem standing_step (positive : 0 < divisor) (p : Nat) :
    standing divisor (quotient * tenTo p + remainder * tenTo p / divisor)
        (remainder * tenTo p % divisor) (scale + p) =
      standing divisor quotient remainder scale := by
  have nonzero : (divisor : ℚ) ≠ 0 := by
    exact_mod_cast positive.ne'
  have split : (remainder : ℚ) * 10 ^ p =
      divisor * (remainder * tenTo p / divisor : Nat) +
        (remainder * tenTo p % divisor : Nat) := by
    rw [← cast_tenTo]
    exact_mod_cast (Nat.div_add_mod _ _).symm
  have left : ((remainder * tenTo p % divisor : Nat) : ℚ) =
      remainder * 10 ^ p -
        divisor * (remainder * tenTo p / divisor : Nat) := by
    linarith
  rw [standing, standing, left, pow_add]
  push_cast
  rw [cast_tenTo]
  field_simp
  ring

/-- Where the division ends with something left over, there is no room for one
place more. -/
private theorem full_of_standing (few : scale ≤ 28)
    (none : widening quotient (28 - scale) = 0) :
    28 ≤ scale ∨ 5 * 10 ^ 28 ≤
      10 * (|standing divisor quotient remainder scale| * 10 ^ scale) := by
  rcases full_of_widening_eq_zero none with places | digits
  · left
    omega
  · right
    rw [abs_of_nonneg standing_nonneg, standing,
      div_mul_cancel₀ _ (by positivity)]
    have large : (limit : ℚ) ≤ 10 * quotient := by
      exact_mod_cast digits
    have rest : (0 : ℚ) ≤ (remainder : ℚ) / divisor := by
      positivity
    have size : (5 : ℚ) * 10 ^ 28 ≤ limit := by
      norm_num [limit]
    linarith

/-- The division does not end with something left over if the quotient is
held: its digits would end before. -/
private theorem not_held_of_standing (small : remainder < divisor)
    (nonzero : remainder ≠ 0) (few : scale ≤ 28)
    (none : widening quotient (28 - scale) = 0) :
    ¬ Held (standing divisor quotient remainder scale) := by
  intro held
  have positive : 0 < divisor := by
    omega
  obtain ⟨c, t, within, places, same⟩ := held_iff.1 held
  have divisor_pos : (0 : ℚ) < divisor := by
    exact_mod_cast positive
  have crossed : (quotient * divisor + remainder : ℚ) * 10 ^ t =
      c * divisor * 10 ^ scale := by
    rw [standing, div_eq_div_iff (by positivity) (by positivity)] at same
    field_simp at same
    linarith
  rcases Nat.lt_or_ge scale t with long | short
  · -- There was room for one place more, but the digits do not fit there.
    rcases full_of_widening_eq_zero none with full | digits
    · omega
    · have digits : (limit : ℚ) ≤ 10 * quotient := by
        exact_mod_cast digits
      have start : (quotient : ℚ) ≤
          standing divisor quotient remainder scale * 10 ^ scale := by
        rw [standing, div_mul_cancel₀ _ (by positivity)]
        have rest : (0 : ℚ) ≤ (remainder : ℚ) / divisor := by
          positivity
        linarith
      have power : (10 : ℚ) ^ (scale + 1) ≤ 10 ^ t :=
        pow_le_pow_right₀ (by norm_num) long
      have large : (limit : ℚ) ≤ c := by
        calc (limit : ℚ) ≤
              10 * (standing divisor quotient remainder scale *
                10 ^ scale) := by
              linarith
          _ = standing divisor quotient remainder scale *
                10 ^ (scale + 1) := by
              ring
          _ ≤ standing divisor quotient remainder scale * 10 ^ t :=
              mul_le_mul_of_nonneg_left power standing_nonneg
          _ = c := by
              rw [same, div_mul_cancel₀ _ (by positivity)]
      have large : (limit : Int) ≤ c := by
        exact_mod_cast large
      omega
  · -- In the places so far the quotient is whole, and so nothing is left.
    rw [← pow_sub_mul_pow (10 : ℚ) short, ← mul_assoc] at crossed
    have whole := mul_right_cancel₀ (by positivity) crossed
    have whole : ((quotient * divisor + remainder : Nat) : Int) =
        c * divisor * (10 ^ (scale - t) : Nat) := by
      exact_mod_cast whole
    have divides : (divisor : Int) ∣ (remainder : Nat) := by
      have multiple : (divisor : Int) ∣
          ((quotient * divisor + remainder : Nat) : Int) := by
        rw [whole]
        exact ⟨c * (10 ^ (scale - t) : Nat), by ring⟩
      push_cast at multiple
      exact (Int.dvd_add_right (Int.dvd_mul_left _ _)).1 multiple
    have divides : divisor ∣ remainder := by
      exact_mod_cast divides
    exact absurd (Nat.le_of_dvd (Nat.pos_of_ne_zero nonzero) divides)
      small.not_ge

/-- The last digit is rounded by half a unit at most. -/
private theorem abs_lastDigit_sub_le (positive : 0 < divisor) :
    |digitsValue (roundHalfEven (quotient * divisor + remainder) divisor,
        scale) - standing divisor quotient remainder scale| ≤
      1 / 2 / 10 ^ scale := by
  have nonzero : (divisor : ℚ) ≠ 0 := by
    exact_mod_cast positive.ne'
  have rounded :=
    abs_roundHalfEven_sub_le (quotient * divisor + remainder) positive
  have exact : ((quotient * divisor + remainder : Nat) : ℚ) / divisor =
      quotient + (remainder : ℚ) / divisor := by
    push_cast
    field_simp
  rw [exact] at rounded
  rw [digitsValue, standing, ← sub_div, abs_div,
    abs_of_pos (by positivity : (0 : ℚ) < 10 ^ scale)]
  gcongr

/-- Long division ends close to what it stands for, and exactly there if that
is held. -/
theorem longDivide_rounds (small : remainder < divisor) (few : scale ≤ 28) :
    |digitsValue (longDivide divisor quotient remainder scale) -
        standing divisor quotient remainder scale| ≤
      precision / 4 *
        (1 + |standing divisor quotient remainder scale|) ∧
    (Held (standing divisor quotient remainder scale) →
      digitsValue (longDivide divisor quotient remainder scale) =
        standing divisor quotient remainder scale) := by
  have positive : 0 < divisor := by
    omega
  induction quotient, remainder, scale using longDivide.induct divisor with
  | case1 quotient scale =>
      have same : digitsValue (quotient, scale) =
          standing divisor quotient 0 scale := by
        simp [digitsValue, standing]
      rw [longDivide, if_pos rfl, same, sub_self, abs_zero, precision]
      exact ⟨by positivity, fun _ => rfl⟩
  | case2 quotient remainder scale some p none =>
      rw [longDivide, if_neg some, if_pos none]
      refine ⟨?_, fun held => absurd held
        (not_held_of_standing small some few none)⟩
      exact le_trans (abs_lastDigit_sub_le positive)
        (half_place_le (full_of_standing few none))
  | case3 quotient remainder scale some p more inductionHypothesis =>
      have step := @standing_step _ quotient remainder scale positive p
      have room := widening_le quotient (28 - scale)
      rw [longDivide, if_neg some, if_neg more, ← step]
      exact inductionHypothesis (Nat.mod_lt _ positive) (by omega)

end LongDivision

/-! ## Division by a whole number -/

/-- A quotient is rounded once in the long division and once to a decimal. -/
private theorem near_of_twice {x y z : ℚ}
    (first : |y - x| ≤ precision / 4 * (1 + |x|))
    (second : |z - y| ≤ precision / 4 * (1 + |y|)) :
    |z - x| ≤ precision * (1 + |x|) := by
  have size := abs_nonneg x
  have grown : |y| ≤ |x| + precision / 4 * (1 + |x|) := by
    have triangle := abs_sub_abs_le_abs_sub y x
    linarith
  have path := abs_sub_le z y x
  unfold precision at *
  linarith

/-- The value is the size with the sign of the coefficient. -/
theorem sign_mul_abs_value (d : Decimal) :
    (d.coefficient.sign : ℚ) * (d.magnitude / 10 ^ d.scale) = d.value := by
  have signed : (d.coefficient.sign : ℚ) * d.magnitude = d.coefficient := by
    rw [← natAbs_coefficient, ← Int.cast_natCast, ← Int.cast_mul,
      Int.sign_mul_natAbs]
  rw [value, ← signed, mul_div_assoc]

/-- What the digits of a quotient have to be close to.  With its sign it is
rounded to the decimal that comes out. -/
private theorem rounds_of_digits {x : ℚ} {c : Int} {number : Nat × Nat}
    {d : Decimal} (nonzero : c ≠ 0)
    (near : |digitsValue number - (|x|)| ≤ precision / 4 * (1 + |x|))
    (exact : Held |x| → digitsValue number = |x|)
    (sign : (c.sign : ℚ) * |x| = x)
    (fitted : fit .division (c.sign * (number.1 : Int)) number.2 = .ok d) :
    Rounds x d := by
  have unit : |(c.sign : ℚ)| = 1 := by
    rcases lt_or_gt_of_ne nonzero with below | above
    · simp [Int.sign_eq_neg_one_of_neg below]
    · simp [Int.sign_eq_one_of_pos above]
  have signed : ((c.sign * (number.1 : Int) : Int) : ℚ) / 10 ^ number.2 =
      c.sign * digitsValue number := by
    push_cast
    rw [digitsValue, mul_div_assoc]
  have second := fit_near fitted
  have kept := (fit_rounds fitted).exact
  rw [signed] at second kept
  refine ⟨near_of_twice ?_ second, ?_⟩
  · nth_rewrite 1 [← sign]
    rw [← mul_sub, abs_mul, unit, one_mul]
    exact near
  · intro held
    have size : Held |x| := by
      rcases abs_choice x with same | flipped
      · rwa [same]
      · rw [flipped]
        exact held.neg
    have same : (c.sign : ℚ) * digitsValue number = x := by
      rw [exact size, sign]
    rw [same] at kept
    exact kept held

/-- At its start the long division stands for the size of the quotient. -/
theorem standing_start (a : Decimal) {n : Nat} (positive : 0 < n) :
    standing n (a.magnitude / n) (a.magnitude % n) a.scale =
      |a.value / n| := by
  have divisor : (0 : ℚ) < n := by
    exact_mod_cast positive
  have split : (a.magnitude : ℚ) =
      n * (a.magnitude / n : Nat) + (a.magnitude % n : Nat) := by
    exact_mod_cast (Nat.div_add_mod _ _).symm
  rw [standing, abs_div, abs_value, abs_of_pos divisor, split]
  field_simp

theorem divWhole_rounds {a d : Decimal} {n : Nat} (positive : 0 < n)
    (quotient : a.divWhole n = .ok d) : Rounds (a.value / n) d := by
  have divisor : (0 : ℚ) < n := by
    exact_mod_cast positive
  simp only [divWhole] at quotient
  split at quotient
  · rename_i zero
    cases quotient
    apply Rounds.of_eq
    rw [value_of_magnitude_eq_zero zero, zero_div, value_zero]
  · rename_i some
    split at quotient
    · rename_i even
      have rounds := fit_rounds quotient
      have digits : (a.magnitude : ℚ) = (a.magnitude / n : Nat) * n := by
        exact_mod_cast (Nat.div_mul_cancel (Nat.dvd_of_mod_eq_zero even)).symm
      have same : ((a.coefficient.sign * (a.magnitude / n : Nat) : Int) : ℚ) /
          10 ^ a.scale = a.value / n := by
        rw [← sign_mul_abs_value, digits, Int.cast_mul, Int.cast_natCast]
        field_simp
      rwa [same] at rounds
    · have divided := @longDivide_rounds n (a.magnitude / n)
        (a.magnitude % n) a.scale (Nat.mod_lt _ positive) a.scale_le
      rw [standing_start a positive, ← digitsValue_stripBlocks, abs_abs]
        at divided
      have sign : (a.coefficient.sign : ℚ) * |a.value / n| = a.value / n := by
        rw [abs_div, abs_value, abs_of_pos divisor, ← mul_div_assoc,
          sign_mul_abs_value]
      exact rounds_of_digits
        (fun zero => some (coefficient_eq_zero.1 zero)) divided.1 divided.2
        sign quotient

end Decimal
end Workforce
