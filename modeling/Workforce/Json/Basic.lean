import Workforce.Text.Digits
import Workforce.Decimal.Text
import Workforce.Decimal.Shortest

/-!
JSON values. Numbers are integers, or the shortest decimals of binary
fractions; an object keeps its members in order, one for each name.
-/

namespace Workforce

/-- A JSON value. A `real` is the number `coefficient * 10 ^ exponent`. -/
inductive Json where
  | null
  | bool (b : Bool)
  | int (i : Int)
  | real (coefficient exponent : Int)
  | str (s : String)
  | arr (items : List Json)
  | obj (members : List (String × Json))
deriving Repr, Inhabited

namespace Json

/-- A list of members with one more; a member of the same name is replaced. -/
def put (name : String) (value : Json) :
    List (String × Json) → List (String × Json)
  | [] => [(name, value)]
  | (n, v) :: rest =>
    if n = name then (name, value) :: rest else (n, v) :: put name value rest

/-- The object with these members, the last of each name. -/
def ofMembers (members : List (String × Json)) : Json :=
  .obj (members.foldl (fun done m => put m.1 m.2 done) [])

/-- The member of an object with this name. -/
def member? (j : Json) (name : String) : Option Json :=
  match j with
  | .obj members => members.lookup name
  | _ => none

/-- The digits of a number in front of and behind its point. -/
def plainNumeral (coefficient exponent : Int) : Decimal.Numeral :=
  let shown := (Text.digits coefficient.natAbs).filterMap Text.digit?
  let negative : Bool := coefficient < 0
  if 0 ≤ exponent then
    { negative
      whole := shown ++ List.replicate exponent.toNat 0
      places := [] }
  else
    let places := (-exponent).toNat
    let padded := List.replicate (places + 1 - shown.length) 0 ++ shown
    { negative
      whole := padded.take (padded.length - places)
      places := padded.drop (padded.length - places) }

/-- The decimal that a value stands for: a number by its plain digits, a text
by what it spells. -/
def decimal? : Json → Option Decimal
  | .int i => Decimal.ofParts? i 0
  | .real coefficient exponent =>
    if coefficient = 0 then some Decimal.zero
    else Decimal.ofNumeral? (plainNumeral coefficient exponent)
  | .str s => Decimal.ofText? s
  | _ => none

end Json
end Workforce
