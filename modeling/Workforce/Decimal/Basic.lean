import Workforce.Number

/-!
Decimals with a coefficient of 96 bits and at most 28 places.

The result of each operation is exact as long as it can be held. One that
cannot loses its last digits, as few as possible, rounded to nearest with a
half to the even neighbour; one that is too large even as a whole number
overflows.
-/

namespace Workforce

/-- The least number that takes more than 96 bits. -/
def Decimal.limit : Nat := 0x1000000000000000000000000

/-- The number `magnitude / 10 ^ scale` with a sign. Two decimals of one value
and different scales are different: trailing zeros are kept and shown. A zero
may carry the minus sign of the number from which it was rounded. -/
structure Decimal where
  negative : Bool
  magnitude : Nat
  scale : Nat
  magnitude_lt : magnitude < Decimal.limit
  scale_le : scale ≤ 28
deriving DecidableEq, Repr

namespace Decimal

/-- The number that stands over `10 ^ scale`: the magnitude with its sign, which
does not count for zero. -/
def coefficient (d : Decimal) : Int :=
  if d.negative then -(d.magnitude : Int) else d.magnitude

/-- The decimal of a sign, a magnitude and a scale that can be held. -/
def ofSigned? (negative : Bool) (magnitude scale : Nat) : Option Decimal :=
  if h : magnitude < limit ∧ scale ≤ 28 then
    some ⟨negative, magnitude, scale, h.1, h.2⟩
  else
    none

/-- The decimal of a coefficient and a scale that can be held. -/
def ofParts? (coefficient : Int) (scale : Nat) : Option Decimal :=
  ofSigned? (decide (coefficient < 0)) coefficient.natAbs scale

/-- Zero without places. -/
def zero : Decimal := ⟨false, 0, 0, by decide, by decide⟩

/-- One without places. -/
def one : Decimal := ⟨false, 1, 0, by decide, by decide⟩

instance : Inhabited Decimal := ⟨zero⟩

/-! ## Rounding -/

/-- A coefficient without its last `k` digits, rounded to nearest with a half
to the even neighbour, alike on both sides of zero. -/
def dropDigits (coefficient : Int) (k : Nat) : Int :=
  coefficient.sign * (roundHalfEven coefficient.natAbs (tenTo k) : Int)

/-- `coefficient / 10 ^ scale`, with the fewest digits dropped that leave a
decimal; `cause` overflows where even the whole number is too large. -/
def fit (cause : Overflow) (coefficient : Int) (scale : Nat) :
    Except Overflow Decimal :=
  match (List.range (scale + 1)).findSome? fun k =>
      ofParts? (dropDigits coefficient k) (scale - k) with
  | some d => .ok d
  | none => .error cause

/-! ## Arithmetic -/

/-- A whole number as a decimal without places. -/
def ofInt (n : Int) : Except Overflow Decimal :=
  fit .multiplication n 0

/-- Whether a coefficient takes at most 32 bits. -/
def isNarrow (d : Decimal) : Bool :=
  d.magnitude < 0x100000000

/-- The product. It is zero without places if a factor is zero, and also if
both coefficients are narrow and the places add up to more than 47. -/
def mul (a b : Decimal) : Except Overflow Decimal :=
  if a.magnitude = 0 ∨ b.magnitude = 0 then
    .ok zero
  else if a.isNarrow && b.isNarrow && 47 < a.scale + b.scale then
    .ok zero
  else
    fit .multiplication (a.coefficient * b.coefficient) (a.scale + b.scale)

/-- The coefficient of `d` written with `scale` places; exact if `scale` is
not below the scale of `d`. -/
def coefficientAt (d : Decimal) (scale : Nat) : Int :=
  d.coefficient * (tenTo (scale - d.scale) : Int)

/-- The sum, with the places of the term that has more. A zero term leaves the
other as it is. -/
def add (a b : Decimal) : Except Overflow Decimal :=
  if a.magnitude = 0 then
    .ok b
  else if b.magnitude = 0 then
    .ok a
  else
    let scale := max a.scale b.scale
    fit .addition (a.coefficientAt scale + b.coefficientAt scale) scale

/-- The same number with the other sign; a zero is left as it is. -/
def neg (d : Decimal) : Decimal :=
  if d.magnitude = 0 then d else { d with negative := !d.negative }

/-- The difference, with the places of the term that has more. A zero term
leaves the other, or its negative, as it is. -/
def sub (a b : Decimal) : Except Overflow Decimal :=
  if a.magnitude = 0 then
    .ok b.neg
  else if b.magnitude = 0 then
    .ok a
  else
    let scale := max a.scale b.scale
    fit .subtraction (a.coefficientAt scale - b.coefficientAt scale) scale

/-! ## Division by a whole number -/

/-- The most places, of `room` and at most nine, by which `quotient` can be
widened and stay below the limit. -/
def widening (quotient room : Nat) : Nat :=
  ((List.range (min 9 room + 1)).reverse.find? fun p =>
    decide (quotient * tenTo p < limit)).getD 0

theorem widening_le (quotient room : Nat) :
    widening quotient room ≤ room := by
  unfold widening
  cases h : (List.range (min 9 room + 1)).reverse.find? fun p =>
      decide (quotient * tenTo p < limit) with
  | none => simp
  | some p =>
    have := List.mem_of_find?_eq_some h
    simp at this
    simp
    omega

/-- Long division: the digits so far are `quotient` with `scale` places, and
`remainder` is left over. Places are added in blocks until nothing is left or
there is no room, where the last digit is rounded, a half to even. -/
def longDivide (divisor quotient remainder scale : Nat) : Nat × Nat :=
  if remainder = 0 then
    (quotient, scale)
  else
    let p := widening quotient (28 - scale)
    if p = 0 then
      (roundHalfEven (quotient * divisor + remainder) divisor, scale)
    else
      longDivide divisor (quotient * tenTo p + remainder * tenTo p / divisor)
        (remainder * tenTo p % divisor) (scale + p)
termination_by 28 - scale
decreasing_by
  have := widening_le quotient (28 - scale)
  omega

/-- Takes `n` trailing zeros off, if they are there and all behind the
point. -/
def stripZeros (n : Nat) (number : Nat × Nat) : Nat × Nat :=
  if n ≤ number.2 ∧ number.1 % tenTo n = 0 then
    (number.1 / tenTo n, number.2 - n)
  else
    number

/-- Takes eight trailing zeros off where the low 32 bits are zero too. -/
def stripEight (number : Nat × Nat) : Nat × Nat :=
  if number.1 % 0x100000000 = 0 then stripZeros 8 number else number

/-- Takes off zeros in blocks of eight, of which at most three fit behind the
point, and then once each in blocks of four, two and one. -/
def stripBlocks (number : Nat × Nat) : Nat × Nat :=
  stripZeros 1 <| stripZeros 2 <| stripZeros 4 <|
    stripEight <| stripEight <| stripEight number

/-- The quotient by a positive whole number. An even quotient keeps the places
of the dividend; another is carried on as far as there is room, and then loses
most of its trailing zeros. -/
def divWhole (a : Decimal) (n : Nat) : Except Overflow Decimal :=
  let m := a.magnitude
  let signed (number : Nat × Nat) :=
    fit .division (a.coefficient.sign * (number.1 : Int)) number.2
  if m = 0 then
    .ok zero
  else if m % n = 0 then
    signed (m / n, a.scale)
  else
    signed (stripBlocks (longDivide n (m / n) (m % n) a.scale))

/-! ## Comparison and rounding to whole numbers -/

/-- Whether the number is above zero. -/
def isPositive (d : Decimal) : Bool :=
  0 < d.coefficient

/-- Whether the number is at least zero and at most one. -/
def isFraction (d : Decimal) : Bool :=
  0 ≤ d.coefficient && d.coefficient ≤ (tenTo d.scale : Int)

/-- The nearest whole number, a half away from zero. -/
def roundHalfAway (d : Decimal) : Int :=
  d.coefficient.sign *
    (roundHalfUp d.magnitude (tenTo d.scale) : Int)

end Decimal
end Workforce
