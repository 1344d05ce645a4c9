import Workforce.Text.Digits
import Workforce.Decimal.Basic

/-!
Written decimals. A decimal is written with exactly the places of its scale.
Reading also takes a sign, a bare point, underscores behind the first digit
and an exponent of at most 28; places that do not fit are rounded off, a half
away from zero.
-/

namespace Workforce.Decimal

open Workforce.Text

/-! ## Writing -/

/-- The sign, the whole part and, behind a point, the places of the scale. -/
def toChars (d : Decimal) : List Char :=
  let sign := if d.negative then ['-'] else []
  let whole := digits (d.magnitude / tenTo d.scale)
  if d.scale = 0 then
    sign ++ whole
  else
    sign ++ whole ++ '.' :: fixedDigits d.scale d.magnitude

/-- The text of a decimal. -/
def text (d : Decimal) : String :=
  String.ofList d.toChars

/-! ## Reading -/

/-- The digits of a numeral in front of and behind its point. -/
structure Numeral where
  negative : Bool
  whole : List Nat
  places : List Nat

/-- The digits of a row in which underscores may follow a digit; `begun` says
that a digit stands in front of the row. None if another character occurs. -/
def groupedDigits (begun : Bool) : List Char → Option (List Nat)
  | [] => some []
  | c :: rest =>
    if c = '_' then
      if begun then groupedDigits begun rest else none
    else do
      let d ← digit? c
      return d :: (← groupedDigits true rest)

/-- A sign in front of a text, and the rest of the text. -/
def splitSign : List Char → Bool × List Char
  | '-' :: rest => (true, rest)
  | '+' :: rest => (false, rest)
  | cs => (false, cs)

/-- A text behind its first `n` digits. -/
def dropDigitChars : Nat → List Char → List Char
  | 0, cs => cs
  | _, [] => []
  | n + 1, c :: rest =>
    dropDigitChars (if (digit? c).isSome then n else n + 1) rest

/-- From this number on a row of digits is carried on in 96 bits, not 64. -/
def wide : Nat := 0x199999999999989a

/-- The places of a numeral that count. Where an underscore follows the 28th,
the digits behind it are dropped and not rounded, unless the number was wide
before that place. -/
def countedPlaces (whole places : List Nat) (back : List Char) : List Nat :=
  let isWide : Bool := wide ≤ ofDigits (whole ++ places.take 27)
  if !isWide && (dropDigitChars 28 back).head? == some '_' then
    places.take 28
  else
    places

/-- A numeral without exponent: an optional sign, and at least one digit with
at most one point among or around the digits. -/
def Numeral.ofChars? (cs : List Char) : Option Numeral := do
  let (negative, body) := splitSign cs
  let front := body.takeWhile (· ≠ '.')
  let back := (body.dropWhile (· ≠ '.')).drop 1
  let whole ← groupedDigits false front
  let places ← groupedDigits (!whole.isEmpty) back
  guard (!(whole.isEmpty && places.isEmpty))
  return { negative, whole, places := countedPlaces whole places back }

/-- A numeral as a decimal: all its places if they fit, or else as many as do,
the last one rounded half away from zero. None if the whole part is too
large. -/
def ofNumeral? (n : Numeral) : Option Decimal :=
  let magnitude := ofDigits (n.whole ++ n.places)
  let scale := n.places.length
  (List.range (scale + 1)).findSome? fun k =>
    let rounded := (roundHalfUp magnitude (tenTo k) : Int)
    ofParts? (if n.negative then -rounded else rounded) (scale - k)

/-- A whole number of at most 28, with an optional plus sign. -/
def readExponent (cs : List Char) : Option Nat := do
  let body := match cs with
    | '+' :: rest => rest
    | cs => cs
  guard (!body.isEmpty)
  let n ← readDigits body
  guard (n ≤ 28)
  return n

/-- The decimal with its point moved right by `n` places. Places make room
for as long as there are any; beyond that the number has none. -/
def shiftRight? (d : Decimal) (n : Nat) : Option Decimal :=
  if n ≤ d.scale then
    ofParts? d.coefficient (d.scale - n)
  else
    ofParts? (d.coefficient * (tenTo (n - d.scale) : Int)) 0

/-- The decimal with its point moved left by `n` places. Those beyond the 28th
are rounded off, a half away from zero; the sign stays, also that of a number
of which nothing else is left. -/
def shiftLeft? (d : Decimal) (n : Nat) : Option Decimal :=
  let lost := d.scale + n - 28
  ofSigned? d.negative (roundHalfUp d.magnitude (tenTo lost))
    (d.scale + n - lost)

/-- Reads a decimal, with or without an exponent. -/
def ofChars? (cs : List Char) : Option Decimal := do
  let isMark (c : Char) := c == 'e' || c == 'E'
  let base ← ofNumeral? (← Numeral.ofChars? (cs.takeWhile (!isMark ·)))
  match cs.dropWhile (!isMark ·) with
  | [] => return base
  | _ :: '-' :: exponent => base.shiftLeft? (← readExponent exponent)
  | _ :: exponent => base.shiftRight? (← readExponent exponent)

/-- Reads a decimal from a text. -/
def ofText? (s : String) : Option Decimal :=
  ofChars? s.toList

end Workforce.Decimal
