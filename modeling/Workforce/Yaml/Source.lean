/-!
YAML texts as rows of characters, each with its line, its column and its
offset in bytes. The ways to end a line are one break here, and two more
characters are breaks of their own. Control characters have no place in a text.
-/

namespace Workforce.Yaml

/-! ## Characters -/

/-- A blank within a line. -/
def isSpace (c : Char) : Bool :=
  c == ' ' || c == '\t'

/-- A line break: the end of a line, or a separator of lines or paragraphs. -/
def isBreak (c : Char) : Bool :=
  c == '\n' || c == '\u2028' || c == '\u2029'

/-- A blank or a line break. -/
def isGap (c : Char) : Bool :=
  isSpace c || isBreak c

/-- A character that has a meaning of its own in flow collections. -/
def isFlowMark (c : Char) : Bool :=
  c ∈ [',', '[', ']', '\x7b', '\x7d']

/-- The character that may mark the byte order at the head of a line. -/
def orderMark : Char := '\ufeff'

/-- Whether a character may stand in a text: all may but controls, among which
tab, line feed, carriage return and next line are let through. -/
def isAllowed (c : Char) : Bool :=
  let n := c.toNat
  n == 0x9 || n == 0xA || n == 0xD || n == 0x85 ||
    (0x20 ≤ n && n ≤ 0x7E) || (0xA0 ≤ n && n ≤ 0xFFFD) || 0x10000 ≤ n

/-! ## Places -/

/-- A character and where it stands: its line, the number of characters in
front of it in that line, and the number of bytes that these take in UTF-8. -/
structure Placed where
  char : Char
  line : Nat
  column : Nat
  offset : Nat

/-- What is left to be read of a text. -/
abbrev Source := List Placed

/-- A text with each end of a line as a line feed. -/
def unifyBreaks : List Char → List Char
  | [] => []
  | '\r' :: '\n' :: rest => '\n' :: unifyBreaks rest
  | c :: rest =>
    (if c = '\r' ∨ c = '\u0085' then '\n' else c) :: unifyBreaks rest

/-- A text with the places of its characters, from a place on. -/
def place (line column offset : Nat) : List Char → Source
  | [] => []
  | c :: rest =>
    ⟨c, line, column, offset⟩ ::
      (if isBreak c then place (line + 1) 0 0 rest
      else place line (column + 1) (offset + c.utf8Size) rest)

namespace Source

/-- The source of a text. None is found for a text with a control character. -/
def ofText? (s : String) : Option Source :=
  if s.toList.all isAllowed then
    some (place 0 0 0 (unifyBreaks s.toList))
  else
    none

/-- Whether a blank or line break comes next, or nothing. -/
def atGap : Source → Bool
  | [] => true
  | p :: _ => isGap p.char

/-- Whether three equal marks that stand alone begin a line here. -/
def isMarker (c : Char) : Source → Bool
  | p :: rest =>
    p.column == 0 && ((p :: rest).take 3).map (·.char) == [c, c, c] &&
      atGap (rest.drop 2)
  | [] => false

/-- Whether a line here begins or ends a document. -/
def atMarker (source : Source) : Bool :=
  isMarker '-' source || isMarker '.' source

/-- Skips blanks, line breaks and comments in front of a token, and an order
mark at the head of a line, where it fills a column. Tabs are skipped only in
flow collections and where no key may begin; a line break outside of flow
collections makes room for a key. The result says whether a key may begin. -/
def skipIdle (inFlow : Bool) : (keyAllowed inComment : Bool) → Source →
    Bool × Source
  | keyAllowed, _, [] => (keyAllowed, [])
  | keyAllowed, inComment, p :: rest =>
    if isBreak p.char then
      skipIdle inFlow (keyAllowed || !inFlow) false rest
    else if inComment || p.char == '#' then
      skipIdle inFlow keyAllowed true rest
    else if p.char == ' ' || (p.char == orderMark && p.column == 0) ||
        (p.char == '\t' && (inFlow || !keyAllowed)) then
      skipIdle inFlow keyAllowed false rest
    else
      (keyAllowed, p :: rest)

end Source
end Workforce.Yaml
