/-!
Whole numbers: powers of ten, the two ways of rounding a quotient, the ranges
of numbers of 32 and 64 bits, and what fails where a result cannot be held.
-/

namespace Workforce

/-! ## Powers and rounding -/

/-- The power of ten with this exponent. -/
def tenTo (exponent : Nat) : Nat :=
  Nat.pow 10 exponent

/-- `n / d` to the nearest whole number, a half to the even neighbour. -/
def roundHalfEven (n d : Nat) : Nat :=
  let quotient := n / d
  let left := n % d
  if 2 * left < d ∨ (2 * left = d ∧ quotient % 2 = 0) then quotient
  else quotient + 1

/-- `n / d` to the nearest whole number, a half upwards. -/
def roundHalfUp (n d : Nat) : Nat :=
  (2 * n + d) / (2 * d)

/-! ## Ranges -/

/-- The least number of 32 bits with a sign. -/
def minInt32 : Int := -0x80000000

/-- The greatest number of 32 bits with a sign. -/
def maxInt32 : Int := 0x7fffffff

/-- The least number of 64 bits with a sign. -/
def minInt64 : Int := -0x8000000000000000

/-- The greatest number of 64 bits with a sign. -/
def maxInt64 : Int := 0x7fffffffffffffff

/-- The greatest number of 64 bits without a sign. -/
def maxNat64 : Nat := 0xffffffffffffffff

/-- The number of 64 bits with a sign that is nearest to `n`. -/
def saturate (n : Int) : Int :=
  max minInt64 (min maxInt64 n)

/-! ## Overflow -/

/-- The operation whose result was too large to be held: one on decimals, or
the step from an instant to a later one. -/
inductive Overflow where
  | multiplication
  | addition
  | subtraction
  | division
  | instant
deriving DecidableEq, Repr

/-- What is reported of an overflow. -/
def Overflow.message : Overflow → String
  | .multiplication => "Multiplication overflowed"
  | .addition => "Addition overflowed"
  | .subtraction => "Subtraction overflowed"
  | .division => "Division overflowed"
  | .instant => "`DateTime + TimeDelta` overflowed"

end Workforce
