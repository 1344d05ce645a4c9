import Mathlib.Data.Rat.Floor
import Mathlib.Tactic.FieldSimp
import Mathlib.Tactic.Linarith
import Mathlib.Tactic.NormNum
import Mathlib.Tactic.Positivity
import Mathlib.Tactic.Ring
import Workforce.Decimal.Basic

/-!
# What decimal arithmetic computes

Every decimal has a value, which is an exact rational number.  This module
says of each operation how far its result is from the exact result on the
values (`Rounds`):

* the two differ by at most one part in `10 ^ 27`, counted on one more than
  the size of the exact result;
* they do not differ at all if some decimal has the exact result as its value.

All operations end in `fit`, so this is first shown for `fit`.  Division rounds
once before, in the long division, which has the same law.  Whole numbers are
never rounded.
-/

namespace Workforce

/-! ## Rounding to whole numbers -/

theorem tenTo_pos (k : Nat) : 0 < tenTo k :=
  Nat.pow_pos (by decide)

theorem tenTo_sub_mul {k s : Nat} (few : k ≤ s) :
    tenTo (s - k) * tenTo k = tenTo s :=
  pow_sub_mul_pow 10 few

@[simp]
theorem cast_tenTo (k : Nat) : (tenTo k : ℚ) = 10 ^ k := by
  simp [tenTo]

/-- To round a quotient moves it by a half at most. -/
theorem abs_roundHalfEven_sub_le (n : Nat) {d : Nat} (positive : 0 < d) :
    |(roundHalfEven n d : ℚ) - n / d| ≤ 1 / 2 := by
  have split : (n : ℚ) = d * (n / d : Nat) + (n % d : Nat) := by
    exact_mod_cast (Nat.div_add_mod n d).symm
  have divisor : (0 : ℚ) < d := by
    exact_mod_cast positive
  have quotient : (n : ℚ) / d = (n / d : Nat) + (n % d : Nat) / d := by
    rw [split]
    field_simp
  have small : ((n % d : Nat) : ℚ) < d := by
    exact_mod_cast Nat.mod_lt n positive
  have left : (0 : ℚ) ≤ (n % d : Nat) / d := by
    positivity
  rw [quotient, abs_le]
  simp only [roundHalfEven]
  split
  · rename_i low
    have half : 2 * ((n % d : Nat) : ℚ) ≤ d := by
      exact_mod_cast low.elim Nat.le_of_lt fun tie => tie.1.le
    have bound : ((n % d : Nat) : ℚ) / d ≤ 1 / 2 := by
      rw [div_le_iff₀ divisor]
      linarith
    constructor <;> linarith
  · rename_i high
    have half : (d : ℚ) ≤ 2 * (n % d : Nat) := by
      have above : d ≤ 2 * (n % d) := by
        omega
      exact_mod_cast above
    have lower : 1 / 2 ≤ ((n % d : Nat) : ℚ) / d := by
      rw [le_div_iff₀ divisor]
      linarith
    have upper : ((n % d : Nat) : ℚ) / d ≤ 1 := by
      rw [div_le_iff₀ divisor]
      linarith
    push_cast
    constructor <;> linarith

/-- A quotient without remainder is not moved. -/
theorem roundHalfEven_of_multiple (q : Nat) {d : Nat} (positive : 0 < d) :
    roundHalfEven (q * d) d = q := by
  simp [roundHalfEven, Nat.mul_div_cancel q positive, positive]

/-- To round a quotient does not take it beyond a whole number. -/
theorem roundHalfEven_le {n d q : Nat} (positive : 0 < d)
    (bounded : n ≤ q * d) : roundHalfEven n d ≤ q := by
  have quotient : n / d ≤ q := (Nat.div_le_iff_le_mul_add_pred positive).2 (by
    rw [Nat.mul_comm d q]
    omega)
  have split := Nat.div_add_mod n d
  simp only [roundHalfEven]
  split
  · exact quotient
  · rename_i high
    by_contra above
    have same : n / d = q := by
      omega
    rw [same, Nat.mul_comm d q] at split
    omega

/-- The nearest whole number, a half away from zero. -/
def roundAway (x : ℚ) : Int :=
  if x < 0 then -⌊-x + 1 / 2⌋ else ⌊x + 1 / 2⌋

theorem abs_sub_roundAway_le (x : ℚ) : |x - roundAway x| ≤ 1 / 2 := by
  unfold roundAway
  split
  · have lower := Int.floor_le (-x + 1 / 2)
    have upper := Int.lt_floor_add_one (-x + 1 / 2)
    rw [abs_le]
    push_cast
    constructor <;> linarith
  · have lower := Int.floor_le (x + 1 / 2)
    have upper := Int.lt_floor_add_one (x + 1 / 2)
    rw [abs_le]
    constructor <;> linarith

/-- What is nearer to a whole number than a half is rounded to it. -/
theorem roundAway_eq_of_near {x : ℚ} {n : Int} (near : |x - n| < 1 / 2) :
    roundAway x = n := by
  have rounded := abs_sub_roundAway_le x
  rw [abs_lt] at near
  rw [abs_le] at rounded
  have below : (roundAway x : ℚ) < n + 1 := by
    linarith
  have above : (n : ℚ) < roundAway x + 1 := by
    linarith
  have below : roundAway x < n + 1 := by
    exact_mod_cast below
  have above : n < roundAway x + 1 := by
    exact_mod_cast above
  omega

/-- A number keeps more than a certain distance from all halves. -/
def ClearOfHalves (x distance : ℚ) : Prop :=
  ∀ n : Int, distance < |x - (n + 1 / 2)|

/-- It is enough to keep the distance from two halves that follow one
another. -/
theorem clearOfHalves_of_between {x distance : ℚ} {n : Int}
    (above : n + 1 / 2 + distance < x)
    (below : x < n + 1 + 1 / 2 - distance) : ClearOfHalves x distance := by
  intro k
  rw [lt_abs]
  rcases le_or_gt k n with low | high
  · left
    have low : (k : ℚ) ≤ n := by
      exact_mod_cast low
    linarith
  · right
    have high : (n : ℚ) + 1 ≤ k := by
      exact_mod_cast high
    linarith

/-- A number that is clear of the halves is rounded as any number within that
distance. -/
theorem roundAway_eq_of_clear {x y distance : ℚ}
    (clear : ClearOfHalves x distance) (near : |y - x| ≤ distance) :
    roundAway y = roundAway x := by
  have rounded := abs_le.1 (abs_sub_roundAway_le x)
  have above := clear (roundAway x)
  have below := clear (roundAway x - 1)
  push_cast at below
  rw [abs_of_nonpos (by linarith)] at above
  rw [abs_of_nonneg (by linarith)] at below
  have moved := abs_le.1 near
  refine roundAway_eq_of_near (abs_lt.2 ⟨?_, ?_⟩) <;> linarith

theorem roundHalfUp_eq_floor (n : Nat) {d : Nat} (positive : 0 < d) :
    (roundHalfUp n d : Int) = ⌊(n : ℚ) / d + 1 / 2⌋ := by
  have divisor : (d : ℚ) ≠ 0 := by
    exact_mod_cast positive.ne'
  have same : (n : ℚ) / d + 1 / 2 = (2 * n + d : Nat) / (2 * d : Nat) := by
    push_cast
    field_simp
  rw [same, Rat.floor_natCast_div_natCast]
  rfl

namespace Decimal

/-! ## Values -/

/-- The number that a decimal stands for. -/
def value (d : Decimal) : ℚ :=
  d.coefficient / 10 ^ d.scale

/-- A number that some decimal stands for. -/
def Held (x : ℚ) : Prop :=
  ∃ d : Decimal, d.value = x

theorem natAbs_coefficient (d : Decimal) :
    d.coefficient.natAbs = d.magnitude := by
  unfold coefficient
  split <;> simp

theorem coefficient_eq_zero {d : Decimal} :
    d.coefficient = 0 ↔ d.magnitude = 0 := by
  rw [← Int.natAbs_eq_zero, natAbs_coefficient]

theorem value_of_magnitude_eq_zero {d : Decimal} (zero : d.magnitude = 0) :
    d.value = 0 := by
  rw [value, coefficient_eq_zero.2 zero]
  simp

theorem abs_value (d : Decimal) : |d.value| = d.magnitude / 10 ^ d.scale := by
  rw [value, abs_div, ← Int.cast_abs, Int.abs_eq_natAbs, natAbs_coefficient,
    abs_of_pos (by positivity)]
  simp

theorem ofParts?_eq_some {c : Int} {s : Nat} {d : Decimal}
    (made : ofParts? c s = some d) : d.coefficient = c ∧ d.scale = s := by
  unfold ofParts? ofSigned? at made
  split at made
  · cases made
    refine ⟨?_, rfl⟩
    by_cases negative : c < 0
    · simp only [coefficient, negative, decide_true, if_true]
      omega
    · simp only [coefficient, negative, decide_false, Bool.false_eq_true,
        if_false]
      omega
  · cases made

theorem value_of_ofParts? {c : Int} {s : Nat} {d : Decimal}
    (made : ofParts? c s = some d) : d.value = c / 10 ^ s := by
  obtain ⟨coefficient, scale⟩ := ofParts?_eq_some made
  rw [value, coefficient, scale]

theorem ofParts?_eq_none {c : Int} {s : Nat} :
    ofParts? c s = none ↔ limit ≤ c.natAbs ∨ 28 < s := by
  unfold ofParts? ofSigned?
  split
  · rename_i fits
    simp
    omega
  · rename_i unfit
    simp
    omega

/-- A number is held if it is a coefficient of 96 bits over a power of ten
with an exponent of at most 28. -/
theorem held_iff {x : ℚ} :
    Held x ↔
      ∃ (c : Int) (s : Nat), c.natAbs < limit ∧ s ≤ 28 ∧ x = c / 10 ^ s := by
  constructor
  · rintro ⟨d, rfl⟩
    refine ⟨d.coefficient, d.scale, ?_, d.scale_le, rfl⟩
    rw [natAbs_coefficient]
    exact d.magnitude_lt
  · rintro ⟨c, s, small, few, rfl⟩
    cases made : ofParts? c s with
    | none =>
        rcases ofParts?_eq_none.1 made with large | many <;> omega
    | some d =>
        exact ⟨d, value_of_ofParts? made⟩

theorem Held.neg {x : ℚ} (held : Held x) : Held (-x) := by
  obtain ⟨c, s, small, few, rfl⟩ := held_iff.1 held
  refine held_iff.2 ⟨-c, s, by simpa using small, few, ?_⟩
  push_cast
  ring

/-- Beside zero nothing is held that is less than one in the last place. -/
theorem Held.le_abs {x : ℚ} (held : Held x) (nonzero : x ≠ 0) :
    1 / 10 ^ 28 ≤ |x| := by
  obtain ⟨d, rfl⟩ := held
  have whole : (1 : ℚ) ≤ d.magnitude := by
    by_contra less
    have zero : d.magnitude = 0 := by
      have less : d.magnitude < 1 := by
        exact_mod_cast not_le.1 less
      omega
    exact nonzero (value_of_magnitude_eq_zero zero)
  have places : (10 : ℚ) ^ d.scale ≤ 10 ^ 28 :=
    pow_le_pow_right₀ (by norm_num) d.scale_le
  rw [abs_value]
  exact div_le_div₀ (by positivity) whole (by positivity) places

/-! ## Rounding to a decimal -/

/-- The relative error that all operations keep within. -/
def precision : ℚ :=
  1 / 10 ^ 27

/-- A decimal as an operation gives it whose exact result is `x`: it is close,
and exact if that is possible. -/
structure Rounds (x : ℚ) (d : Decimal) : Prop where
  near : |d.value - x| ≤ precision * (1 + |x|)
  exact : Held x → d.value = x

theorem Rounds.of_eq {x : ℚ} {d : Decimal} (same : d.value = x) :
    Rounds x d := by
  refine ⟨?_, fun _ => same⟩
  rw [same, sub_self, abs_zero, precision]
  positivity

/-- A half in the last place is little where there is no room for one place
more: there are 28 places, or with one more the number would take more than
96 bits. -/
theorem half_place_le {x : ℚ} {s : Nat}
    (full : 28 ≤ s ∨ 5 * 10 ^ 28 ≤ 10 * (|x| * 10 ^ s)) :
    1 / 2 / 10 ^ s ≤ precision / 4 * (1 + |x|) := by
  have positive : (0 : ℚ) < 10 ^ s := by
    positivity
  have size := abs_nonneg x
  rw [div_le_iff₀ positive, precision]
  rcases full with places | digits
  · have scale : (10 : ℚ) ^ 28 ≤ 10 ^ s :=
      pow_le_pow_right₀ (by norm_num) places
    calc (1 : ℚ) / 2 ≤ 1 / 10 ^ 27 / 4 * (1 * 10 ^ 28) := by
          norm_num
      _ ≤ 1 / 10 ^ 27 / 4 * ((1 + |x|) * 10 ^ s) := by
          gcongr
          linarith
      _ = 1 / 10 ^ 27 / 4 * (1 + |x|) * 10 ^ s := by
          ring
  · have product : |x| * 10 ^ s ≤ (1 + |x|) * 10 ^ s := by
      gcongr
      linarith
    linarith

theorem dropDigits_zero (c : Int) : dropDigits c 0 = c := by
  have whole := roundHalfEven_of_multiple c.natAbs (tenTo_pos 0)
  rw [show tenTo 0 = 1 from rfl, Nat.mul_one] at whole
  rw [dropDigits, show tenTo 0 = 1 from rfl, whole]
  exact Int.sign_mul_natAbs c

/-- Digits that are zeros are dropped without a trace. -/
theorem dropDigits_of_multiple (c : Int) (k : Nat) :
    dropDigits (c * tenTo k) k = c := by
  have positive : (tenTo k : Int).sign = 1 :=
    Int.sign_eq_one_of_pos (by exact_mod_cast tenTo_pos k)
  rw [dropDigits, Int.sign_mul, positive, Int.mul_one, Int.natAbs_mul,
    Int.natAbs_natCast, roundHalfEven_of_multiple _ (tenTo_pos k)]
  exact Int.sign_mul_natAbs c

theorem abs_dropDigits_sub_le (c : Int) (k : Nat) :
    |(dropDigits c k : ℚ) - c / 10 ^ k| ≤ 1 / 2 := by
  have rounded := abs_roundHalfEven_sub_le c.natAbs (tenTo_pos k)
  have sign : |((c.sign : Int) : ℚ)| ≤ 1 := by
    rcases Int.sign_trichotomy c with one | none | minus
    · simp [one]
    · simp [none]
    · simp [minus]
  have signed : (c.sign : ℚ) * c.natAbs = c := by
    rw [← Int.cast_natCast c.natAbs, ← Int.cast_mul, Int.sign_mul_natAbs]
  have same : (dropDigits c k : ℚ) - c / 10 ^ k =
      c.sign * ((roundHalfEven c.natAbs (tenTo k) : ℚ) -
        c.natAbs / tenTo k) := by
    rw [mul_sub, ← mul_div_assoc, signed, cast_tenTo, dropDigits,
      Int.cast_mul, Int.cast_natCast]
  rw [same, abs_mul]
  calc _ ≤ 1 * (1 / 2 : ℚ) := by
        gcongr
    _ = 1 / 2 := by
        ring

/-- Where `fit` ends: it drops the fewest digits that leave a decimal. -/
theorem fit_eq_ok {cause : Overflow} {c : Int} {s : Nat} {d : Decimal}
    (fitted : fit cause c s = .ok d) :
    ∃ k ≤ s, ofParts? (dropDigits c k) (s - k) = some d ∧
      ∀ j < k, ofParts? (dropDigits c j) (s - j) = none := by
  unfold fit at fitted
  split at fitted
  · rename_i found
    cases fitted
    obtain ⟨before, k, behind, order, made, unfit⟩ :=
      List.findSome?_eq_some_iff.1 found
    have length : before.length < s + 1 := by
      have total := congrArg List.length order
      simp at total
      omega
    have place : before.length = k := by
      have member := congrArg (fun l => l[before.length]?) order
      simpa [length] using member
    refine ⟨k, by omega, made, ?_⟩
    intro j less
    refine unfit j ?_
    have member := congrArg (fun l => l[j]?) order
    have inside : j < before.length := by
      omega
    rw [List.getElem?_append_left inside, List.getElem?_range (by omega)]
      at member
    exact List.mem_of_getElem? member.symm
  · cases fitted

/-- A number overflows only if even the whole number is too large. -/
theorem fit_of_small {cause : Overflow} {c : Int} {s : Nat}
    (small : roundHalfEven c.natAbs (tenTo s) < limit) :
    ∃ d, fit cause c s = .ok d := by
  unfold fit
  split
  · exact ⟨_, rfl⟩
  · rename_i none
    have unfit := List.findSome?_eq_none_iff.1 none s (by simp)
    rw [Nat.sub_self, ofParts?_eq_none] at unfit
    have magnitude : (dropDigits c s).natAbs =
        c.sign.natAbs * roundHalfEven c.natAbs (tenTo s) := by
      rw [dropDigits, Int.natAbs_mul, Int.natAbs_natCast]
    have sign : c.sign.natAbs ≤ 1 := by
      rcases Int.sign_trichotomy c with one | none | minus
      · simp [one]
      · simp [none]
      · simp [minus]
    have less := Nat.mul_le_mul_right
      (roundHalfEven c.natAbs (tenTo s)) sign
    omega

/-- A number without places is not rounded. -/
theorem value_of_fit_whole {cause : Overflow} {c : Int} {d : Decimal}
    (fitted : fit cause c 0 = .ok d) : d.coefficient = c ∧ d.scale = 0 := by
  obtain ⟨k, few, made, _⟩ := fit_eq_ok fitted
  have none : k = 0 := by
    omega
  subst none
  rw [dropDigits_zero] at made
  exact ofParts?_eq_some made

/-- Where a digit more would not have fitted, there is no room for one. -/
private theorem full_of_unfit {c : Int} {s k : Nat} (some : k + 1 ≤ s)
    (unfit : ofParts? (dropDigits c k) (s - k) = none) :
    28 ≤ s - (k + 1) ∨
      5 * 10 ^ 28 ≤ 10 * (|(c : ℚ) / 10 ^ s| * 10 ^ (s - (k + 1))) := by
  rcases ofParts?_eq_none.1 unfit with large | places
  · right
    have dropped := abs_dropDigits_sub_le c k
    have big : (5 : ℚ) * 10 ^ 28 + 1 / 2 ≤ |(dropDigits c k : ℚ)| := by
      have large : (limit : ℚ) ≤ (dropDigits c k).natAbs :=
        Nat.cast_le.2 large
      rw [Nat.cast_natAbs, Int.cast_abs] at large
      refine le_trans ?_ large
      norm_num [limit]
    have reach : (5 : ℚ) * 10 ^ 28 ≤ |(c : ℚ) / 10 ^ k| := by
      have triangle := abs_sub_abs_le_abs_sub (dropDigits c k : ℚ) (c / 10 ^ k)
      linarith
    have same : 10 * (|(c : ℚ) / 10 ^ s| * 10 ^ (s - (k + 1))) =
        |(c : ℚ) / 10 ^ k| := by
      rw [abs_div, abs_div, abs_of_pos (by positivity : (0 : ℚ) < 10 ^ s),
        abs_of_pos (by positivity : (0 : ℚ) < 10 ^ k),
        ← pow_mul_pow_sub (10 : ℚ) some, pow_succ]
      field_simp
    rw [same]
    exact reach
  · left
    omega

/-- If the exact number is held, `fit` drops nothing but zeros. -/
private theorem fit_exact {cause : Overflow} {c : Int} {s : Nat} {d : Decimal}
    (fitted : fit cause c s = .ok d) (held : Held ((c : ℚ) / 10 ^ s)) :
    d.value = c / 10 ^ s := by
  obtain ⟨k, few, made, unfit⟩ := fit_eq_ok fitted
  obtain ⟨e, t, small, places, same⟩ := held_iff.1 held
  rw [value_of_ofParts? made]
  have crossed : c * tenTo t = e * tenTo s := by
    rw [div_eq_div_iff (by positivity) (by positivity)] at same
    exact_mod_cast same
  rcases Nat.le_total s t with short | long
  · -- The number as it stands is a decimal already, so nothing is dropped.
    have zero : k = 0 := by
      by_contra nonzero
      have large := ofParts?_eq_none.1 (unfit 0 (Nat.pos_of_ne_zero nonzero))
      rw [dropDigits_zero] at large
      have magnitude : c.natAbs * tenTo (t - s) = e.natAbs := by
        have equal : c.natAbs * tenTo t = e.natAbs * tenTo s := by
          have absolute := congrArg Int.natAbs crossed
          simpa [Int.natAbs_mul] using absolute
        rw [← tenTo_sub_mul short, ← Nat.mul_assoc] at equal
        exact Nat.eq_of_mul_eq_mul_right (tenTo_pos s) equal
      have one := tenTo_pos (t - s)
      have less : c.natAbs ≤ e.natAbs := by
        rw [← magnitude]
        exact Nat.le_mul_of_pos_right _ one
      omega
    rw [zero, dropDigits_zero, Nat.sub_zero]
  · -- At the places of the decimal that holds it nothing is lost.
    have multiple : c = e * tenTo (s - t) := by
      rw [← tenTo_sub_mul long] at crossed
      push_cast at crossed
      rw [← Int.mul_assoc] at crossed
      exact Int.eq_of_mul_eq_mul_right
        (by exact_mod_cast (tenTo_pos t).ne') crossed
    have enough : k ≤ s - t := by
      by_contra more
      have large := ofParts?_eq_none.1 (unfit (s - t) (by omega))
      rw [multiple, dropDigits_of_multiple] at large
      omega
    have split : c = e * tenTo (s - t - k) * tenTo k := by
      rw [multiple, ← tenTo_sub_mul enough]
      push_cast
      ring
    have kept := dropDigits_of_multiple (e * tenTo (s - t - k)) k
    rw [← split] at kept
    have split : (c : ℚ) = e * 10 ^ (s - t - k) * 10 ^ k := by
      rw [split]
      push_cast
      rw [cast_tenTo, cast_tenTo]
    rw [kept, ← pow_mul_pow_sub (10 : ℚ) few, split]
    push_cast
    rw [cast_tenTo]
    field_simp

/-- One rounding costs a quarter of what an operation may. -/
theorem fit_near {cause : Overflow} {c : Int} {s : Nat} {d : Decimal}
    (fitted : fit cause c s = .ok d) :
    |d.value - c / 10 ^ s| ≤ precision / 4 * (1 + |(c : ℚ) / 10 ^ s|) := by
  obtain ⟨k, few, made, unfit⟩ := fit_eq_ok fitted
  rw [value_of_ofParts? made]
  cases k with
  | zero =>
      rw [dropDigits_zero, Nat.sub_zero, sub_self, abs_zero, precision]
      positivity
  | succ k =>
      have full := full_of_unfit few (unfit k (Nat.lt_succ_self k))
      refine le_trans ?_ (half_place_le full)
      have same : (dropDigits c (k + 1) : ℚ) / 10 ^ (s - (k + 1)) -
          c / 10 ^ s =
            (dropDigits c (k + 1) - c / 10 ^ (k + 1)) /
              10 ^ (s - (k + 1)) := by
        rw [← pow_mul_pow_sub (10 : ℚ) few]
        field_simp
      rw [same, abs_div,
        abs_of_pos (by positivity : (0 : ℚ) < 10 ^ (s - (k + 1)))]
      have dropped := abs_dropDigits_sub_le c (k + 1)
      gcongr

theorem fit_rounds {cause : Overflow} {c : Int} {s : Nat} {d : Decimal}
    (fitted : fit cause c s = .ok d) : Rounds (c / 10 ^ s) d := by
  refine ⟨le_trans (fit_near fitted) ?_, fit_exact fitted⟩
  have positive : 0 ≤ precision * (1 + |(c : ℚ) / 10 ^ s|) := by
    rw [precision]
    positivity
  linarith

end Decimal
end Workforce
