import Workforce.Decimal.Binary

/-!
The shortest decimal of a binary fraction: of the decimals that are taken to
the fraction when they are rounded, the one with the fewest digits and nearest
to it.
-/

namespace Workforce

/-- A number `digits * 10 ^ exponent`. -/
structure Figures where
  digits : Nat
  exponent : Int
deriving DecidableEq, Repr

namespace Binary

/-- The quotients between which every number is taken to `b`. -/
def interval (b : Binary) : Ratio × Ratio :=
  let low := if b.m = leastFull ∧ -1074 < b.q then
      Ratio.scaled (4 * b.m - 1) 2 (b.q - 2)
    else
      Ratio.scaled (2 * b.m - 1) 2 (b.q - 1)
  (low, Ratio.scaled (2 * b.m + 1) 2 (b.q - 1))

/-- Whether a number is taken to `b`; the ends count if `m` is even. -/
def covers (b : Binary) (r : Ratio) : Bool :=
  let (low, high) := b.interval
  if b.m % 2 = 0 then low.le r && r.le high
  else !(r.le low) && !(high.le r)

/-- The better of the two neighbours of `b` among the multiples of
`10 ^ e` that are taken back to it; the upper one if both are as near. -/
def onGrid (b : Binary) (e : Int) : Option Figures :=
  let grid := b.value.divPow 10 e
  let below := grid.num / grid.den
  let fits (n : Nat) := n ≠ 0 && b.covers (Ratio.scaled n 10 e)
  let nearerBelow := 2 * (grid.num % grid.den) < grid.den
  match fits below, fits (below + 1) with
  | true, true => some ⟨if nearerBelow then below else below + 1, e⟩
  | true, false => some ⟨below, e⟩
  | false, true => some ⟨below + 1, e⟩
  | false, false => none

end Binary

namespace Figures

/-- The same number without trailing zeros in its digits. -/
def strip (fuel : Nat) (f : Figures) : Figures :=
  match fuel with
  | 0 => f
  | fuel + 1 =>
    if f.digits ≠ 0 ∧ f.digits % 10 = 0 then
      strip fuel ⟨f.digits / 10, f.exponent + 1⟩
    else f

/-- The shortest decimal that is taken to a fraction; 17 digits always
suffice. Zero has the digits zero. -/
def ofBinary (b : Binary) : Figures :=
  if b.m = 0 then
    ⟨0, 0⟩
  else
    let value := b.value
    let estimate := ((value.num.log2 : Int) - value.den.log2) * 30103 / 100000
    let top := value.logFloor 10 estimate
    let found := (List.range 17).findSome? fun (n : Nat) => b.onGrid (top - n)
    (found.getD ⟨b.m, b.q⟩).strip 20

/-- The shortest decimal of the binary fraction nearest to a number; none for
a number that is too large. -/
def shortest? (f : Figures) : Option Figures :=
  if f.digits = 0 ∨ f.exponent < -100000 then
    some ⟨0, 0⟩
  else if 400 < f.exponent then
    none
  else
    (Binary.nearest (Ratio.scaled f.digits 10 f.exponent)).map ofBinary

end Figures
end Workforce
