import Workforce.Text.Digits
import Workforce.Yaml.Source

/-!
The texts of plain and of quoted scalars. Either may run over several lines,
and what stands between two words of it is folded: a single line break counts
as a space, and of several the first counts for nothing.
-/

namespace Workforce.Yaml

/-! ## Between words -/

/-- The blanks of a first line and the line breaks behind them, the last one
first. -/
structure Gap where
  blanks : List Char
  breaks : List Char
  broken : Bool

namespace Gap

/-- Nothing yet between two words. -/
def empty : Gap := ⟨[], [], false⟩

/-- The gap behind a line break that was taken back by a backslash. -/
def escaped : Gap := ⟨[], [], true⟩

/-- What a gap stands for in the text of a scalar. -/
def folded (g : Gap) : List Char :=
  if g.broken then
    match g.breaks.reverse with
    | ['\n'] => [' ']
    | '\n' :: more => more
    | breaks => breaks
  else
    g.blanks.reverse

/-- Reads on in a gap up to the next word. A tab that stands in a further line
no deeper than the column `margin` is out of place. -/
def read (margin : Option Nat) (g : Gap) : Source → Option (Gap × Source)
  | [] => some (g, [])
  | p :: rest =>
    if isBreak p.char then
      read margin ⟨[], p.char :: g.breaks, true⟩ rest
    else if isSpace p.char then
      if g.broken then
        if p.char = '\t' ∧ margin.any (p.column ≤ ·) then none
        else read margin g rest
      else
        read margin { g with blanks := p.char :: g.blanks } rest
    else
      some (g, p :: rest)

end Gap

/-! ## Plain scalars -/

/-- The characters up to a gap or to a mark that ends a plain scalar: a colon
in front of a gap, or a flow mark within a flow collection, where a colon may
not touch one. The word is added to `done`, the last character first. -/
def plainWord (inFlow : Bool) : (done : List Char) → Source →
    Option (List Char × Source)
  | done, [] => some (done, [])
  | done, p :: rest =>
    let touches := rest.head?.any fun q => isFlowMark q.char || q.char == '?'
    if isGap p.char then
      some (done, p :: rest)
    else if inFlow && p.char == ':' && touches then
      none
    else if (p.char == ':' && Source.atGap rest) ||
        (inFlow && isFlowMark p.char) then
      some (done, p :: rest)
    else
      plainWord inFlow (p.char :: done) rest

/-- The words of a plain scalar behind those in `done` and the gap `g`, while
they stand deeper than the column `margin` or in a flow collection. The result
says whether a line break came last. -/
def plainWords (inFlow : Bool) (margin : Option Nat) :
    Nat → List Char → Gap → Source → Option (List Char × Bool × Source)
  | 0, _, _, _ => none
  | fuel + 1, done, g, source => do
    let ends := source.atMarker || source.head?.any fun p => p.char == '#' ||
      (g.broken && !inFlow && margin.any (p.column ≤ ·))
    if ends then
      return (done, g.broken, source)
    let (word, rest) ← plainWord inFlow [] source
    if word.isEmpty then
      return (done, g.broken, source)
    let done := word ++ g.folded.reverse ++ done
    if rest.head?.any (isGap ·.char) then
      let (g, rest) ← Gap.empty.read margin rest
      plainWords inFlow margin fuel done g rest
    else
      return (done, false, rest)

/-- A plain scalar: its text, whether a line break came behind it, and the rest
of the source. -/
def plainScalar (inFlow : Bool) (margin : Option Nat) (source : Source) :
    Option (String × Bool × Source) := do
  let (done, broken, rest) ←
    plainWords inFlow margin (source.length + 1) [] .empty source
  return (String.ofList done.reverse, broken, rest)

/-! ## Quoted scalars -/

/-- The characters behind a backslash that stand for one other. -/
def namedEscapes : List (Char × Char) :=
  [('0', '\x00'), ('a', '\x07'), ('b', '\x08'), ('t', '\t'), ('\t', '\t'),
    ('n', '\n'), ('v', '\x0b'), ('f', '\x0c'), ('r', '\r'), ('e', '\x1b'),
    (' ', ' '), ('"', '"'), ('/', '/'), ('\\', '\\'), ('N', '\u0085'),
    ('_', '\u00a0'), ('L', '\u2028'), ('P', '\u2029')]

/-- The character of a row of hexadecimal digits, and the rest of the
source. -/
def codePoint (width : Nat) (source : Source) : Option (Char × Source) := do
  let ds ← (source.take width).mapM fun p => Text.hexDigit? p.char
  let n := ds.foldl (fun n d => 16 * n + d) 0
  guard (ds.length = width && n < 0x110000 && !(0xD800 ≤ n && n < 0xE000))
  return (Char.ofNat n, source.drop width)

/-- The character that an escape stands for, and the rest of the source. -/
def escape : Source → Option (Char × Source)
  | [] => none
  | p :: rest =>
    if p.char = 'x' then codePoint 2 rest
    else if p.char = 'u' then codePoint 4 rest
    else if p.char = 'U' then codePoint 8 rest
    else (namedEscapes.lookup p.char).map fun c => (c, rest)

/-- The rest of a scalar in double quotes behind the characters in `done`, the
last one first. -/
def doubleQuoted : Nat → List Char → Source → Option (List Char × Source)
  | 0, _, _ => none
  | _, _, [] => none
  | fuel + 1, done, p :: rest => do
    guard (!Source.atMarker (p :: rest))
    if p.char = '"' then
      return (done, rest)
    else if isGap p.char then
      let (g, rest) ← Gap.empty.read none (p :: rest)
      doubleQuoted fuel (g.folded.reverse ++ done) rest
    else if p.char = '\\' then
      if rest.head?.any (isBreak ·.char) then
        let (g, rest) ← Gap.escaped.read none (rest.drop 1)
        doubleQuoted fuel (g.breaks ++ done) rest
      else
        let (c, rest) ← escape rest
        doubleQuoted fuel (c :: done) rest
    else
      doubleQuoted fuel (p.char :: done) rest

/-- The rest of a scalar in single quotes behind the characters in `done`, the
last one first. -/
def singleQuoted : Nat → List Char → Source → Option (List Char × Source)
  | 0, _, _ => none
  | _, _, [] => none
  | fuel + 1, done, p :: rest => do
    guard (!Source.atMarker (p :: rest))
    if p.char = '\'' then
      if rest.head?.any (·.char == '\'') then
        singleQuoted fuel ('\'' :: done) (rest.drop 1)
      else
        return (done, rest)
    else if isGap p.char then
      let (g, rest) ← Gap.empty.read none (p :: rest)
      singleQuoted fuel (g.folded.reverse ++ done) rest
    else
      singleQuoted fuel (p.char :: done) rest

/-- The rest of a scalar behind its opening quote: its text, and what follows
the closing one. -/
def quotedScalar (double : Bool) (source : Source) :
    Option (String × Source) := do
  let fuel := source.length + 1
  let (done, rest) ← if double then doubleQuoted fuel [] source
    else singleQuoted fuel [] source
  return (String.ofList done.reverse, rest)

end Workforce.Yaml
