import Workforce.Yaml.Scalar

/-!
The tokens of a YAML text: its marks and scalars, and tokens for the beginning
and the end of block collections, which are known by the columns of their
lines.

A key is recognised by the colon behind it, so its tokens are put in front of
it afterwards. Until then the place where it may have begun is kept, one for
each flow collection that is open.

Anchors, aliases, tags and block scalars are outside this part of the format: a
text that holds one cannot be read.
-/

namespace Workforce.Yaml

/-- A token of a text. -/
inductive Token where
  | version (major minor : Nat)
  | documentStart
  | documentEnd
  | blockSequence
  | blockMapping
  | blockEnd
  | flowSequence
  | flowSequenceEnd
  | flowMapping
  | flowMappingEnd
  | item
  | comma
  | key
  | value
  | scalar (plain : Bool) (text : String)
deriving DecidableEq, Repr

/-- A place where a key may have begun: the number of tokens in front of it,
its line, column and offset in the line, and whether nothing but a key may stand
there. -/
structure KeyStart where
  tokensBefore : Nat
  line : Nat
  column : Nat
  offset : Nat
  required : Bool

/-- What is known of a text up to some place: its tokens, the last one first;
the columns of the open block collections, the innermost first; the place of a
key in the innermost flow collection and in those around it; and whether a key
may begin next. -/
structure Scan where
  tokens : List Token
  columns : List Nat
  keyStart : Option KeyStart
  outer : List (Option KeyStart)
  keyAllowed : Bool

namespace Scan

/-- Nothing is known at the beginning of a text. -/
def start : Scan := ⟨[], [], none, [], true⟩

/-- Whether a flow collection is open. -/
def inFlow (s : Scan) : Bool :=
  !s.outer.isEmpty

/-- One more token. -/
def emit (s : Scan) (t : Token) : Scan :=
  { s with tokens := t :: s.tokens }

/-- One more token behind the first `n`. -/
def insert (s : Scan) (n : Nat) (t : Token) : Scan :=
  let behind := s.tokens.length - n
  { s with tokens := s.tokens.take behind ++ t :: s.tokens.drop behind }

/-! ## Places of keys -/

/-- Gives up the place of a key, unless there has to be one. -/
def dropKey (s : Scan) : Option Scan :=
  if s.keyStart.any (·.required) then none
  else some { s with keyStart := none }

/-- Notes that a key may begin here. In the column of an open block collection
it has to. -/
def offerKey (s : Scan) (p : Placed) : Option Scan :=
  if s.keyAllowed then do
    let s ← s.dropKey
    let required := !s.inFlow && s.columns.head? == some p.column
    return { s with
      keyStart :=
        some ⟨s.tokens.length, p.line, p.column, p.offset, required⟩ }
  else
    some s

/-- Gives up the places from which no key can reach to here: a key ends in its
line and within 1024 bytes. -/
def forgetKeys (s : Scan) (p : Placed) : Option Scan :=
  let isPast (k : KeyStart) := k.line < p.line || k.offset + 1024 < p.offset
  if (s.keyStart :: s.outer).any (·.any fun k => isPast k && k.required) then
    none
  else
    some { s with
      keyStart := s.keyStart.filter (!isPast ·)
      outer := s.outer.map (·.filter (!isPast ·)) }

/-! ## Block collections -/

/-- Ends the block collections that stand deeper than a column, or all of
them. -/
def closeBlocks (s : Scan) (column : Option Nat) : Scan :=
  if s.inFlow then
    s
  else
    let closed := s.columns.takeWhile fun c => column.all (· < c)
    { s with
      tokens := List.replicate closed.length .blockEnd ++ s.tokens
      columns := s.columns.drop closed.length }

/-- Begins a block collection behind the first `n` tokens, if its column is
deeper than that of the innermost one. -/
def openBlock (s : Scan) (column n : Nat) (t : Token) : Scan :=
  if !s.inFlow && s.columns.all (· < column) then
    { s.insert n t with columns := column :: s.columns }
  else
    s

/-! ## Marks -/

/-- A mark that begins or ends a document. -/
def marker (s : Scan) (t : Token) : Option Scan := do
  let s ← (s.closeBlocks none).dropKey
  return { s.emit t with keyAllowed := false }

/-- The bracket that opens a flow collection, which may be a key itself. -/
def openFlow (s : Scan) (p : Placed) (t : Token) : Option Scan := do
  let s ← s.offerKey p
  return { s.emit t with
    keyStart := none, outer := s.keyStart :: s.outer, keyAllowed := true }

/-- The bracket that closes a flow collection. -/
def closeFlow (s : Scan) (t : Token) : Option Scan := do
  let s ← s.dropKey
  let s := s.emit t
  match s.outer with
  | [] => return { s with keyAllowed := false }
  | keyStart :: outer =>
    return { s with keyStart, outer, keyAllowed := false }

/-- The comma between the items of a flow collection. -/
def comma (s : Scan) : Option Scan := do
  let s ← s.dropKey
  return { s.emit .comma with keyAllowed := true }

/-- The dash in front of an item of a block sequence. -/
def item (s : Scan) (p : Placed) : Option Scan := do
  guard (s.inFlow || s.keyAllowed)
  let s ← (s.openBlock p.column s.tokens.length .blockSequence).dropKey
  return { s.emit .item with keyAllowed := true }

/-- The question mark in front of a key. -/
def key (s : Scan) (p : Placed) : Option Scan := do
  guard (s.inFlow || s.keyAllowed)
  let s ← (s.openBlock p.column s.tokens.length .blockMapping).dropKey
  return { s.emit .key with keyAllowed := !s.inFlow }

/-- The colon behind a key. -/
def value (s : Scan) (p : Placed) : Option Scan := do
  match s.keyStart with
  | some k =>
    let s := (s.insert k.tokensBefore .key).openBlock k.column k.tokensBefore
      .blockMapping
    return { s.emit .value with keyStart := none, keyAllowed := false }
  | none =>
    guard (s.inFlow || s.keyAllowed)
    let s := s.openBlock p.column s.tokens.length .blockMapping
    return { s.emit .value with keyAllowed := !s.inFlow }

/-! ## Scalars and directives -/

/-- A scalar in quotes, the first of which has been read. -/
def quoted (s : Scan) (p : Placed) (rest : Source) :
    Option (Scan × Source) := do
  let s ← s.offerKey p
  let (text, rest) ← quotedScalar (p.char == '"') rest
  return ({ s.emit (.scalar false text) with keyAllowed := false }, rest)

/-- A plain scalar. -/
def plain (s : Scan) (p : Placed) (rest : Source) :
    Option (Scan × Source) := do
  let s ← s.offerKey p
  let (text, broken, rest) ←
    plainScalar s.inFlow s.columns.head? (p :: rest)
  return ({ s.emit (.scalar true text) with keyAllowed := broken }, rest)

/-- A number of a version, of at most nine digits. -/
def versionNumber (cs : List Char) : Option (Nat × List Char) :=
  let (ds, rest) := Text.spanDigits cs
  if ds.isEmpty ∨ 9 < ds.length then none else some (Text.ofDigits ds, rest)

/-- The version that a directive names. -/
def versionOf? (line : List Char) : Option Token := do
  match line with
  | '%' :: 'Y' :: 'A' :: 'M' :: 'L' :: c :: rest =>
    guard (isSpace c)
    let (major, rest) ← versionNumber (rest.dropWhile isSpace)
    guard (rest.head? == some '.')
    let (minor, rest) ← versionNumber (rest.drop 1)
    let behind := rest.dropWhile isSpace
    guard (behind.isEmpty || behind.head? == some '#')
    return .version major minor
  | _ => none

/-- A directive, which takes a line. -/
def directive (s : Scan) (source : Source) : Option (Scan × Source) := do
  let line := source.takeWhile fun p => !isBreak p.char
  let s ← s.marker (← versionOf? (line.map (·.char)))
  return (s, (source.drop line.length).drop 1)

/-! ## Tokens -/

/-- Whether a plain scalar may begin with a character that is not a mark of
its own. -/
def beginsPlain (inFlow : Bool) (c : Char) : Bool :=
  if c = '-' then true
  else if c = '?' ∨ c = ':' then !inFlow
  else !(isGap c || isFlowMark c ||
    c ∈ ['#', '&', '*', '!', '|', '>', '\'', '"', '%', '@', '\x60'])

/-- The next token, which begins with a character in front of a rest. -/
def next (s : Scan) (p : Placed) (rest : Source) : Option (Scan × Source) := do
  let s := (← s.forgetKeys p).closeBlocks (some p.column)
  let alone := Source.atGap rest
  let read (s : Option Scan) := s.map fun s => (s, rest)
  let readMarker (t : Token) := (s.marker t).map fun s => (s, rest.drop 2)
  if p.column = 0 ∧ p.char = '%' then s.directive (p :: rest)
  else if Source.isMarker '-' (p :: rest) then readMarker .documentStart
  else if Source.isMarker '.' (p :: rest) then readMarker .documentEnd
  else if p.char = '[' then read (s.openFlow p .flowSequence)
  else if p.char = '\x7b' then read (s.openFlow p .flowMapping)
  else if p.char = ']' then read (s.closeFlow .flowSequenceEnd)
  else if p.char = '\x7d' then read (s.closeFlow .flowMappingEnd)
  else if p.char = ',' then read s.comma
  else if p.char = '-' ∧ alone then read (s.item p)
  else if p.char = '?' ∧ (s.inFlow ∨ alone) then read (s.key p)
  else if p.char = ':' ∧ (s.inFlow ∨ alone) then read (s.value p)
  else if p.char = '\'' ∨ p.char = '"' then s.quoted p rest
  else if beginsPlain s.inFlow p.char then s.plain p rest
  else none

/-- All tokens of a source behind those of a scan. -/
def tokens? : Nat → Scan → Source → Option (List Token)
  | 0, _, _ => none
  | fuel + 1, s, source => do
    let (keyAllowed, source) := source.skipIdle s.inFlow s.keyAllowed false
    let s := { s with keyAllowed }
    match source with
    | [] =>
      let s ← (s.closeBlocks none).dropKey
      return s.tokens.reverse
    | p :: rest =>
      let (s, rest) ← s.next p rest
      tokens? fuel s rest

end Scan

/-- The tokens of a source. -/
def Source.tokens? (source : Source) : Option (List Token) :=
  Scan.start.tokens? (source.length + 1) source

end Workforce.Yaml
