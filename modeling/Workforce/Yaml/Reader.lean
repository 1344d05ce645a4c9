import Workforce.Yaml.Node
import Workforce.Yaml.Token

/-!
Reading YAML documents: the tree that a row of tokens stands for. A place
between two marks may be left empty. A text holds at most one document; a text
without any is an empty one.
-/

namespace Workforce.Yaml

/-! ## Nodes -/

/-- Whether the next token is one of these. -/
def comesNext (stops : List Token) (ts : List Token) : Bool :=
  ts.head?.any (· ∈ stops)

mutual

/-- A node, and the tokens behind it. A block collection counts only if
`block`, and a sequence in the column of its key only if `indentless`. -/
def node (block indentless : Bool) :
    Nat → List Token → Option (Node × List Token)
  | 0, _ => none
  | fuel + 1, ts =>
    match ts with
    | .scalar plain text :: rest =>
      some (if plain then .plain text else .quoted text, rest)
    | .flowSequence :: rest => flowItems true [] fuel rest
    | .flowMapping :: rest => flowEntries true [] fuel rest
    | .blockSequence :: rest => if block then blockItems [] fuel rest else none
    | .blockMapping :: rest => if block then blockEntries [] fuel rest else none
    | .item :: rest =>
      if indentless then bareItems [] fuel (.item :: rest) else none
    | _ => none

/-- A node, or an empty one if a token that may follow it comes next. -/
def nodeUnless (stops : List Token) (block indentless : Bool) :
    Nat → List Token → Option (Node × List Token)
  | 0, _ => none
  | fuel + 1, ts =>
    if comesNext stops ts then some (.empty, ts)
    else node block indentless fuel ts

/-- The value behind a key, or an empty one if no colon comes next. -/
def valueUnless (stops : List Token) (block : Bool) :
    Nat → List Token → Option (Node × List Token)
  | 0, _ => none
  | fuel + 1, ts =>
    match ts with
    | .value :: rest => nodeUnless stops block block fuel rest
    | ts => some (.empty, ts)

/-- The items of a block sequence behind those in `done`. -/
def blockItems (done : List Node) :
    Nat → List Token → Option (Node × List Token)
  | 0, _ => none
  | fuel + 1, ts =>
    match ts with
    | .item :: rest => do
      let (item, rest) ←
        nodeUnless [.item, .blockEnd] true false fuel rest
      blockItems (item :: done) fuel rest
    | .blockEnd :: rest => some (.sequence done.reverse, rest)
    | _ => none

/-- The items of a sequence in the column of its key. -/
def bareItems (done : List Node) :
    Nat → List Token → Option (Node × List Token)
  | 0, _ => none
  | fuel + 1, ts =>
    match ts with
    | .item :: rest => do
      let (item, rest) ←
        nodeUnless [.item, .key, .value, .blockEnd] true false fuel rest
      bareItems (item :: done) fuel rest
    | ts => some (.sequence done.reverse, ts)

/-- The entries of a block mapping behind those in `done`. -/
def blockEntries (done : List (Node × Node)) :
    Nat → List Token → Option (Node × List Token)
  | 0, _ => none
  | fuel + 1, ts =>
    match ts with
    | .key :: rest => do
      let stops := [Token.key, .value, .blockEnd]
      let (key, rest) ← nodeUnless stops true true fuel rest
      let (value, rest) ← valueUnless stops true fuel rest
      blockEntries ((key, value) :: done) fuel rest
    | .blockEnd :: rest => some (.mapping done.reverse, rest)
    | _ => none

/-- The items of a flow sequence behind those in `done`. A comma comes in front
of all but the first, and may come behind the last. An item may be a single
entry of a mapping. -/
def flowItems (first : Bool) (done : List Node) :
    Nat → List Token → Option (Node × List Token)
  | 0, _ => none
  | fuel + 1, ts =>
    match ts, first with
    | .flowSequenceEnd :: rest, _ => some (.sequence done.reverse, rest)
    | .comma :: rest, false =>
      match rest with
      | .flowSequenceEnd :: rest => some (.sequence done.reverse, rest)
      | rest => do
        let (item, rest) ← flowItem fuel rest
        flowItems false (item :: done) fuel rest
    | ts, true => do
      let (item, rest) ← flowItem fuel ts
      flowItems false (item :: done) fuel rest
    | _, false => none

/-- An item of a flow sequence. -/
def flowItem : Nat → List Token → Option (Node × List Token)
  | 0, _ => none
  | fuel + 1, ts =>
    match ts with
    | .key :: rest => do
      let (key, rest) ←
        if comesNext [.value, .comma, .flowSequenceEnd] rest then
          some (.empty, rest.drop 1)
        else
          node false false fuel rest
      let (value, rest) ←
        valueUnless [.comma, .flowSequenceEnd] false fuel rest
      return (.mapping [(key, value)], rest)
    | ts => node false false fuel ts

/-- The entries of a flow mapping behind those in `done`, with commas as in a
flow sequence. -/
def flowEntries (first : Bool) (done : List (Node × Node)) :
    Nat → List Token → Option (Node × List Token)
  | 0, _ => none
  | fuel + 1, ts =>
    match ts, first with
    | .flowMappingEnd :: rest, _ => some (.mapping done.reverse, rest)
    | .comma :: rest, false =>
      match rest with
      | .flowMappingEnd :: rest => some (.mapping done.reverse, rest)
      | rest => do
        let (entry, rest) ← flowEntry fuel rest
        flowEntries false (entry :: done) fuel rest
    | ts, true => do
      let (entry, rest) ← flowEntry fuel ts
      flowEntries false (entry :: done) fuel rest
    | _, false => none

/-- An entry of a flow mapping. A key without a colon has an empty value. -/
def flowEntry : Nat → List Token → Option ((Node × Node) × List Token)
  | 0, _ => none
  | fuel + 1, ts =>
    match ts with
    | .key :: rest => do
      let (key, rest) ←
        nodeUnless [.value, .comma, .flowMappingEnd] false false fuel rest
      let (value, rest) ←
        valueUnless [.comma, .flowMappingEnd] false fuel rest
      return ((key, value), rest)
    | ts => do
      let (key, rest) ← node false false fuel ts
      return ((key, .empty), rest)

end

/-! ## Documents -/

/-- A node at the top of a document, and the tokens behind it. -/
def topNode (ts : List Token) : Option (Node × List Token) :=
  node true false (4 * ts.length + 4) ts

/-- Whether a directive names a version that is understood. -/
def isKnownVersion (t : Token) : Bool :=
  t == .version 1 1 || t == .version 1 2

/-- The document behind its directive, if there is one, and its marker. -/
def markedDocument (ts : List Token) : Option (Node × List Token) :=
  let rest := if ts.head?.any isKnownVersion then ts.drop 1 else ts
  match rest with
  | .documentStart :: rest =>
    match rest with
    | [] => some (.empty, [])
    | .version _ _ :: _ => some (.empty, rest)
    | .documentStart :: _ => some (.empty, rest)
    | .documentEnd :: _ => some (.empty, rest)
    | rest => topNode rest
  | _ => none

/-- The document that a row of tokens stands for. -/
def document (ts : List Token) : Option Node := do
  let (root, rest) ← match ts with
    | [] => some (.empty, [])
    | .version _ _ :: _ => markedDocument ts
    | .documentStart :: _ => markedDocument ts
    | ts => topNode ts
  guard (rest.all (· == .documentEnd))
  return root

/-- Reads a text that holds at most one document. -/
def ofText? (s : String) : Option Node := do
  document (← (← Source.ofText? s).tokens?)

end Workforce.Yaml
