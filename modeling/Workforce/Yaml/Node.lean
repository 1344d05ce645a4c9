import Workforce.Json.Reader

/-!
YAML documents as trees, and what a scalar without quotes stands for in the
core schema.
-/

namespace Workforce.Yaml

/-- A node of a document. A plain scalar without characters is a place that was
left empty. -/
inductive Node where
  | plain (text : String)
  | quoted (text : String)
  | mapping (entries : List (Node × Node))
  | sequence (items : List Node)
deriving Repr, Inhabited

namespace Node

/-- A place that was left empty. -/
def empty : Node := plain ""

end Node

/-! ## Plain scalars -/

/-- The truth value that a plain scalar spells. -/
def bool? (s : String) : Option Bool :=
  if s ∈ ["true", "True", "TRUE"] then some true
  else if s ∈ ["false", "False", "FALSE"] then some false
  else none

/-- A digit of a base up to sixteen. -/
def digitOf? (base : Nat) (c : Char) : Option Nat :=
  (Text.hexDigit? c).filter (· < base)

/-- A number with at least one digit in a base. -/
def readBase (base : Nat) (cs : List Char) : Option Nat :=
  if cs.isEmpty then
    none
  else
    (cs.mapM (digitOf? base)).map fun ds =>
      ds.foldl (fun n d => base * n + d) 0

/-- A number without sign: decimal without leading zeros, or with the mark of
base sixteen, eight or two. -/
def magnitude? : List Char → Option Nat
  | '0' :: 'x' :: rest => readBase 16 rest
  | '0' :: 'o' :: rest => readBase 8 rest
  | '0' :: 'b' :: rest => readBase 2 rest
  | '0' :: c :: rest => if c.isDigit && rest.all Char.isDigit then none
    else readBase 10 ('0' :: c :: rest)
  | cs => readBase 10 cs

/-- The integer that a plain scalar spells. -/
def int? (s : String) : Option Int :=
  match s.toList with
  | '-' :: rest => (magnitude? rest).map fun n => -(n : Int)
  | '+' :: rest => (magnitude? rest).map Int.ofNat
  | cs => (magnitude? cs).map Int.ofNat

/-- Whether a row of digits has zeros in front, which makes it a text. -/
def hasLeadingZero (cs : List Char) : Bool :=
  match (Decimal.splitSign cs).2 with
  | '0' :: c :: rest => c.isDigit && rest.all Char.isDigit
  | _ => false

/-- The number with a point or an exponent that a plain scalar spells. -/
def real? (s : String) : Option Json := do
  let cs := s.toList
  guard (!hasLeadingZero cs)
  let (negative, cs) := Decimal.splitSign cs
  let (whole, cs) := Text.spanDigits cs
  let (behind, cs) := match cs with
    | '.' :: rest => Text.spanDigits rest
    | cs => ([], cs)
  guard (!(whole.isEmpty && behind.isEmpty))
  let (exponent, cs) ← Json.exponentPart cs
  guard cs.isEmpty
  let shortest ← Figures.shortest?
    ⟨Text.ofDigits (whole ++ behind), exponent.getD 0 - behind.length⟩
  return Json.ofFigures negative shortest

/-- What a plain scalar stands for: nothing, a truth value, a number, or else
its own text. None is found for an integer beyond 64 bits. -/
def resolve? (s : String) : Option Json :=
  if s ∈ ["", "~", "null", "Null", "NULL"] then
    some .null
  else
    match bool? s, int? s with
    | some b, _ => some (.bool b)
    | none, some i =>
      if minInt64 ≤ i ∧ i ≤ maxNat64 then some (.int i)
      else if i.natAbs < 0x80000000000000000000000000000000 then none
      else real? s
    | none, none => some ((real? s).getD (.str s))

end Workforce.Yaml
