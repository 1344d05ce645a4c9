import Workforce.Json.Basic

/-!
Reading JSON texts. Integers that 64 bits can hold, signed or not, are kept as
they are; every other number becomes the shortest decimal of a binary
fraction. Of members with one name the last counts. Arrays and objects may
stand 127 deep in each other.
-/

namespace Workforce.Json

open Workforce.Text

/-- The rest of a text behind the blanks that JSON allows between tokens. -/
def skipSpace (cs : List Char) : List Char :=
  cs.dropWhile fun c => c == ' ' || c == '\t' || c == '\n' || c == '\r'

/-! ## Texts -/

/-- A number of four hexadecimal digits, and the rest of the text. -/
def codeUnit : List Char → Option (Nat × List Char)
  | a :: b :: c :: d :: rest => do
    let a ← hexDigit? a
    let b ← hexDigit? b
    let c ← hexDigit? c
    let d ← hexDigit? d
    return (((a * 16 + b) * 16 + c) * 16 + d, rest)
  | _ => none

/-- The character of one code unit, or of a pair of surrogates. -/
def unicodeEscape (cs : List Char) : Option (Char × List Char) := do
  let (high, rest) ← codeUnit cs
  if 0xD800 ≤ high ∧ high < 0xDC00 then
    match rest with
    | '\\' :: 'u' :: rest =>
      let (low, rest) ← codeUnit rest
      guard (0xDC00 ≤ low && low < 0xE000)
      let code := 0x10000 + (high - 0xD800) * 0x400 + (low - 0xDC00)
      return (Char.ofNat code, rest)
    | _ => none
  else
    guard (!(0xDC00 ≤ high && high < 0xE000))
    return (Char.ofNat high, rest)

/-- The character behind a backslash. -/
def escape : List Char → Option (Char × List Char)
  | '"' :: rest => some ('"', rest)
  | '\\' :: rest => some ('\\', rest)
  | '/' :: rest => some ('/', rest)
  | 'b' :: rest => some ('\x08', rest)
  | 'f' :: rest => some ('\x0c', rest)
  | 'n' :: rest => some ('\n', rest)
  | 'r' :: rest => some ('\r', rest)
  | 't' :: rest => some ('\t', rest)
  | 'u' :: rest => unicodeEscape rest
  | _ => none

/-- The characters up to the closing quote, and what follows it. -/
def quoted : Nat → List Char → Option (List Char × List Char)
  | 0, _ => none
  | _, [] => none
  | fuel + 1, c :: rest =>
    if c = '"' then
      some ([], rest)
    else if c = '\\' then do
      let (c, rest) ← escape rest
      let (cs, rest) ← quoted fuel rest
      return (c :: cs, rest)
    else if c.toNat < 32 then
      none
    else do
      let (cs, rest) ← quoted fuel rest
      return (c :: cs, rest)

/-! ## Numbers -/

/-- A number that is not kept as an integer. -/
def ofFigures (negative : Bool) (f : Figures) : Json :=
  let magnitude : Int := f.digits
  .real (if negative then -magnitude else magnitude) f.exponent

/-- A significand carried on by digits for as long as 64 bits can hold it, and
the digits that are left. -/
def carryOn (significand : Nat) : List Nat → Nat × List Nat
  | [] => (significand, [])
  | d :: ds =>
    let carried := 10 * significand + d
    if carried ≤ maxNat64 then carryOn carried ds else (significand, d :: ds)

/-- A number held as a binary fraction. Digits that its significand has no
room for count as zeros. -/
def real? (negative : Bool) (whole places : List Nat) (exponent : Int) :
    Option Json := do
  let (significand, leftWhole) := carryOn 0 whole
  let (significand, leftPlaces) := carryOn significand places
  let taken := places.length - leftPlaces.length
  let b ← Binary.ofScaled significand (exponent + leftWhole.length - taken)
  return ofFigures negative (Figures.ofBinary b)

/-- A number written without point and exponent. -/
def ofWhole? (negative : Bool) (ds : List Nat) : Option Json :=
  let magnitude := Text.ofDigits ds
  if negative then
    if 0 < magnitude ∧ minInt64 ≤ -(magnitude : Int) then
      some (.int (-magnitude))
    else real? true ds [] 0
  else if magnitude ≤ maxNat64 then
    some (.int magnitude)
  else
    real? false ds [] 0

/-- The places behind a point; none of a point without a digit behind it. -/
def places (cs : List Char) : Option (Option (List Nat) × List Char) :=
  match cs with
  | '.' :: rest =>
    let (ds, rest) := spanDigits rest
    if ds.isEmpty then none else some (some ds, rest)
  | cs => some (none, cs)

/-- The exponent behind a letter `e`, with its sign. -/
def exponentPart (cs : List Char) : Option (Option Int × List Char) :=
  match cs with
  | c :: rest =>
    if c = 'e' ∨ c = 'E' then
      let (negative, rest) := Decimal.splitSign rest
      let (ds, rest) := spanDigits rest
      let size : Int := ofDigits ds
      if ds.isEmpty then none
      else some (some (if negative then -size else size), rest)
    else some (none, cs)
  | [] => some (none, [])

/-- A number. Its whole part has no leading zero. -/
def number (cs : List Char) : Option (Json × List Char) := do
  let (negative, cs) := match cs with
    | '-' :: rest => (true, rest)
    | cs => (false, cs)
  let (whole, cs) := spanDigits cs
  guard (!whole.isEmpty && (whole.length == 1 || whole.head? != some 0))
  let (places, cs) ← places cs
  let (exponent, cs) ← exponentPart cs
  let value ← match places, exponent with
    | none, none => ofWhole? negative whole
    | places, exponent =>
      real? negative whole (places.getD []) (exponent.getD 0)
  return (value, cs)

/-! ## Values -/

mutual

/-- A value, and the rest of the text; `depth` arrays and objects may still
stand in each other. -/
def value (depth : Nat) : Nat → List Char → Option (Json × List Char)
  | 0, _ => none
  | fuel + 1, cs =>
    match skipSpace cs with
    | '\x7b' :: rest =>
      if depth = 0 then
        none
      else
        match skipSpace rest with
        | '\x7d' :: rest => some (.obj [], rest)
        | rest => do
          let (members, rest) ← members (depth - 1) fuel rest
          return (ofMembers members, rest)
    | '[' :: rest =>
      if depth = 0 then
        none
      else
        match skipSpace rest with
        | ']' :: rest => some (.arr [], rest)
        | rest => do
          let (items, rest) ← items (depth - 1) fuel rest
          return (.arr items, rest)
    | '"' :: rest => do
      let (cs, rest) ← quoted (rest.length + 1) rest
      return (.str (String.ofList cs), rest)
    | 'n' :: 'u' :: 'l' :: 'l' :: rest => some (.null, rest)
    | 't' :: 'r' :: 'u' :: 'e' :: rest => some (.bool true, rest)
    | 'f' :: 'a' :: 'l' :: 's' :: 'e' :: rest => some (.bool false, rest)
    | cs => number cs

/-- One or more items up to the closing bracket. -/
def items (depth : Nat) : Nat → List Char → Option (List Json × List Char)
  | 0, _ => none
  | fuel + 1, cs => do
    let (item, rest) ← value depth fuel cs
    match skipSpace rest with
    | ',' :: rest =>
      let (more, rest) ← items depth fuel rest
      return (item :: more, rest)
    | ']' :: rest => return ([item], rest)
    | _ => none

/-- One or more members up to the closing brace. -/
def members (depth : Nat) :
    Nat → List Char → Option (List (String × Json) × List Char)
  | 0, _ => none
  | fuel + 1, cs => do
    match skipSpace cs with
    | '"' :: rest =>
      let (name, rest) ← quoted (rest.length + 1) rest
      match skipSpace rest with
      | ':' :: rest =>
        let (v, rest) ← value depth fuel rest
        match skipSpace rest with
        | ',' :: rest =>
          let (more, rest) ← members depth fuel rest
          return ((String.ofList name, v) :: more, rest)
        | '\x7d' :: rest => return ([(String.ofList name, v)], rest)
        | _ => none
      | _ => none
    | _ => none

end

/-- Reads a text that holds one value and nothing else. -/
def ofText? (s : String) : Option Json := do
  let cs := s.toList
  let (v, rest) ← value 127 (cs.length + 1) cs
  guard (skipSpace rest).isEmpty
  return v

end Workforce.Json
