import Workforce.Text.Blank
import Workforce.Text.Digits
import Workforce.Time.Calendar
import Workforce.Time.Instant

/-!
Instants in the text form of RFC 3339: the date and the time of day on a wall
clock, a fraction of a second where there is one, and the offset of the clock.

Reading is more generous than writing. Numbers may have fewer digits, and
blanks may stand in front of numbers and marks; a space may take the place of
the letter `T`; the offset may be `UTC` and need not have a colon.
-/

namespace Workforce

open Workforce.Text

/-! ## Writing -/

namespace ZonedTime

/-- Four digits for a year that has them, and a sign in front of any other. -/
def yearChars (year : Int) : List Char :=
  if 0 ≤ year ∧ year ≤ 9999 then
    fixedDigits 4 year.toNat
  else
    (if year < 0 then '-' else '+') :: paddedDigits 4 year.natAbs

/-- The fraction of a second, in the fewest of three, six or nine digits that
lose nothing. -/
def fractionChars (nanoseconds : Nat) : List Char :=
  if nanoseconds = 0 then
    []
  else if nanoseconds % 1000000 = 0 then
    '.' :: fixedDigits 3 (nanoseconds / 1000000)
  else if nanoseconds % 1000 = 0 then
    '.' :: fixedDigits 6 (nanoseconds / 1000)
  else
    '.' :: fixedDigits 9 nanoseconds

/-- The offset as a sign, hours and minutes; a clock that shows UTC has the
letter `Z`. -/
def offsetChars (offset : Int) : List Char :=
  if offset = 0 then
    ['Z']
  else
    (if offset < 0 then '-' else '+') ::
      (fixedDigits 2 (offset.natAbs / 60) ++
        ':' :: fixedDigits 2 (offset.natAbs % 60))

/-- The text of an instant on its own wall clock. -/
def toChars (t : ZonedTime) : List Char :=
  let shown := t.localNanoseconds
  let date := Date.ofDayNumber (shown / Instant.perDay)
  let inDay := (shown % Instant.perDay).toNat
  let second := inDay / 1000000000
  yearChars date.year ++
    '-' :: fixedDigits 2 date.month.toNat ++
    '-' :: fixedDigits 2 date.day.toNat ++
    'T' :: fixedDigits 2 (second / 3600) ++
    ':' :: fixedDigits 2 (second / 60 % 60) ++
    ':' :: fixedDigits 2 (second % 60) ++
    fractionChars (inDay % 1000000000) ++
    offsetChars t.offset

/-- The text of an instant on its own wall clock. -/
def text (t : ZonedTime) : String :=
  String.ofList t.toChars

end ZonedTime

/-- The text of an instant on a clock that shows UTC. -/
def Instant.text (t : Instant) : String :=
  (ZonedTime.ofInstant t).text

/-! ## Reading -/

namespace ZonedTime

/-- The rest of a text behind its leading blanks. -/
def skipBlanks (cs : List Char) : List Char :=
  cs.dropWhile isBlank

/-- A number of one to `width` digits behind blanks, and the rest of the
text. -/
def field (width : Nat) (cs : List Char) : Option (Nat × List Char) :=
  let cs := skipBlanks cs
  let (ds, _) := spanDigits (cs.take width)
  if ds.isEmpty then none else some (ofDigits ds, cs.drop ds.length)

/-- A year behind blanks: up to four digits, or any number of them behind a
sign. -/
def yearField (cs : List Char) : Option (Int × List Char) := do
  match skipBlanks cs with
  | '+' :: rest =>
    let (ds, rest) := spanDigits rest
    guard (!ds.isEmpty)
    return ((ofDigits ds : Int), rest)
  | '-' :: rest =>
    let (ds, rest) := spanDigits rest
    guard (!ds.isEmpty)
    return (-(ofDigits ds : Int), rest)
  | cs =>
    let (year, rest) ← field 4 cs
    return ((year : Int), rest)

/-- The rest of a text behind a mark, in front of which blanks may stand. -/
def mark (m : Char) (cs : List Char) : Option (List Char) :=
  match skipBlanks cs with
  | c :: rest => if c = m then some rest else none
  | [] => none

/-- The rest of a text behind the letter, or the space, between the date and
the time of day. -/
def divider : List Char → Option (List Char)
  | c :: rest => if c ∈ ['T', 't', ' '] then some rest else none
  | [] => none

/-- The nanoseconds of a fraction of a second, if a point announces one. Digits
behind the ninth count for nothing. -/
def fraction (cs : List Char) : Option (Nat × List Char) :=
  match cs with
  | '.' :: rest =>
    let (ds, rest) := spanDigits rest
    if ds.isEmpty then none
    else some (ofDigits ((ds ++ List.replicate 9 0).take 9), rest)
  | cs => some (0, cs)

/-- The sign of an offset; the minus sign proper counts like the hyphen. -/
def signOf? (c : Char) : Option Int :=
  if c = '+' then some 1
  else if c = '-' ∨ c = '\u2212' then some (-1)
  else none

/-- The offset at the end of a text, in minutes: a sign, two digits for the
hours and two for the minutes, with colons and blanks between them. -/
def signedOffset? : List Char → Option Int
  | sign :: rest => do
    let sign ← signOf? sign
    let hours ← readDigits (rest.take 2)
    let behind := (rest.drop 2).dropWhile fun c => c == ':' || isBlank c
    let minutes ← readDigits (behind.take 2)
    guard (2 ≤ rest.length && 2 ≤ behind.length && minutes < 60)
    guard ((behind.drop 2).all isBlank)
    return sign * (hours * 60 + minutes : Nat)
  | [] => none

/-- The offset at the end of a text, in minutes, behind blanks. -/
def offset? (cs : List Char) : Option Int :=
  let cs := skipBlanks cs
  let named (n : Nat) := (cs.drop n).all isBlank
  if cs.head?.any (· ∈ ['Z', 'z']) then
    if named 1 then some 0 else none
  else if (cs.take 3).map Char.toUpper = ['U', 'T', 'C'] then
    if named 3 then some 0 else none
  else
    signedOffset? cs

/-- Whether a year is one of those that dates are kept in. -/
def yearAllowed (year : Int) : Bool :=
  -262143 ≤ year && year ≤ 262142

/-- Reads a date that the calendar has, a time of day and an offset. -/
def ofChars? (cs : List Char) : Option ZonedTime := do
  let (year, cs) ← yearField cs
  let cs ← mark '-' cs
  let (month, cs) ← field 2 cs
  let cs ← mark '-' cs
  let (day, cs) ← field 2 cs
  let cs ← divider cs
  let (hour, cs) ← field 2 cs
  let cs ← mark ':' cs
  let (minute, cs) ← field 2 cs
  let cs ← mark ':' cs
  let (second, cs) ← field 2 cs
  let (nanosecond, cs) ← fraction cs
  let offset ← offset? cs
  let date : Date := ⟨year, month, day⟩
  guard (hour < 24 && minute < 60 && second < 60)
  guard (yearAllowed year && decide date.Exists)
  let inDay : Int := (hour * 60 + minute) * 60 + second
  let shown := date.dayNumber * Instant.perDay +
    inDay * Instant.perSecond + nanosecond
  let instant : Instant := ⟨shown - offset * Instant.perMinute⟩
  let dayInUtc := Date.ofDayNumber (instant.nanoseconds / Instant.perDay)
  guard (yearAllowed dayInUtc.year)
  if offset_lt : offset.natAbs < 1440 then
    return { instant, offset, offset_lt }
  else
    none

/-- Reads an instant with its offset. -/
def ofText? (s : String) : Option ZonedTime :=
  ofChars? s.toList

end ZonedTime

/-- Reads an instant; of the offset only its effect is kept. -/
def Instant.ofText? (s : String) : Option Instant :=
  (ZonedTime.ofText? s).map (·.instant)

end Workforce
