import Workforce.Number

/-!
Binary fractions of 53 digits: the numbers `m * 2 ^ q` in which other numbers
are held once they have been rounded to the nearest one, a half to even.
Products and quotients are exact results, rounded once.
-/

namespace Workforce

/-! ## Quotients -/

/-- A quotient of natural numbers. -/
structure Ratio where
  num : Nat
  den : Nat

namespace Ratio

/-- `n * base ^ e` as a quotient. -/
def scaled (n base : Nat) (e : Int) : Ratio :=
  if 0 ≤ e then ⟨n * Nat.pow base e.toNat, 1⟩
  else ⟨n, Nat.pow base (-e).toNat⟩

/-- `r / base ^ e`. -/
def divPow (r : Ratio) (base : Nat) (e : Int) : Ratio :=
  if 0 ≤ e then ⟨r.num, r.den * Nat.pow base e.toNat⟩
  else ⟨r.num * Nat.pow base (-e).toNat, r.den⟩

/-- The product of two quotients. -/
def mul (a b : Ratio) : Ratio :=
  ⟨a.num * b.num, a.den * b.den⟩

/-- The quotient of two quotients. -/
def div (a b : Ratio) : Ratio :=
  ⟨a.num * b.den, a.den * b.num⟩

/-- Whether one quotient is at most another. -/
def le (a b : Ratio) : Bool :=
  a.num * b.den ≤ b.num * a.den

/-- The nearest whole number, a half to the even neighbour. -/
def round (r : Ratio) : Nat :=
  roundHalfEven r.num r.den

/-- The largest `e` with `base ^ e ≤ r`, for a positive quotient; `estimate`
is close below or above it. -/
def logFloor (r : Ratio) (base : Nat) (estimate : Int) : Int :=
  let candidates := [estimate + 2, estimate + 1, estimate, estimate - 1]
  (candidates.find? fun e => (scaled 1 base e).le r).getD (estimate - 2)

/-- The exponent of the first binary digit of a positive quotient. -/
def log2 (r : Ratio) : Int :=
  r.logFloor 2 ((r.num.log2 : Int) - r.den.log2)

end Ratio

/-! ## Fractions -/

/-- The number `m * 2 ^ q`, at least zero. -/
structure Binary where
  m : Nat
  q : Int

namespace Binary

/-- The least number of 53 binary digits. -/
def leastFull : Nat := 0x10000000000000

/-- A fraction as a quotient. -/
def value (b : Binary) : Ratio :=
  Ratio.scaled b.m 2 b.q

/-- The binary fraction nearest to a quotient; none if it is too large for a
binary exponent of eleven bits. -/
def nearest (r : Ratio) : Option Binary :=
  let q := max (r.log2 - 52) (-1074)
  let m := (r.divPow 2 q).round
  let found : Binary := if m = 2 * leastFull then ⟨leastFull, q + 1⟩ else ⟨m, q⟩
  if found.q ≤ 971 then some found else none

/-- The fraction nearest to a power of ten. -/
def powerOfTen (exponent : Nat) : Option Binary :=
  nearest (Ratio.scaled 1 10 exponent)

/-- A fraction times a power of ten, as the nearest fraction to the product
with, or to the quotient by, the fraction nearest to that power. -/
def scale (b : Binary) (exponent : Int) : Option Binary := do
  let power ← powerOfTen exponent.natAbs
  if 0 ≤ exponent then nearest (b.value.mul power.value)
  else nearest (b.value.div power.value)

/-- The fraction that stands for `significand * 10 ^ exponent` when each step
is rounded: the significand, and its product with a power of ten. Only powers
up to the 308th can be held, so a number far below one takes two steps; one
still smaller is zero. None is found for a number that is too large. -/
def ofScaled (significand : Nat) (exponent : Int) : Option Binary := do
  let b ← nearest ⟨significand, 1⟩
  if significand = 0 ∨ exponent < -616 then
    return ⟨0, 0⟩
  else if 308 < exponent then
    none
  else if exponent < -308 then
    (← b.scale (-308)).scale (exponent + 308)
  else
    b.scale exponent

end Binary
end Workforce
