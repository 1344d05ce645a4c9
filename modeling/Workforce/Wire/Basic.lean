import Workforce.Decimal.Text
import Workforce.Fault
import Workforce.Json.Basic
import Workforce.Text.Named
import Workforce.Time.Rfc3339

/-!
The wire form of values: how each is written as JSON and read from it.

A record is written as an object. It is read from an object, of which unknown
members are ignored, or from an array of its fields in their order.
-/

namespace Workforce

/-- A type whose values have a form in JSON. -/
class Wire (α : Type) where
  encode : α → Json
  decode : Json → Option α

namespace Wire

/-! ## Single values -/

/-- An integer within bounds. -/
def decodeWithin (low high : Int) : Json → Option Int
  | .int i => if low ≤ i ∧ i ≤ high then some i else none
  | _ => none

/-- A number of 32 bits with a sign, such as a year. -/
def decodeInt32 : Json → Option Int :=
  decodeWithin minInt32 maxInt32

instance : Wire Json where
  encode j := j
  decode j := some j

instance : Wire String where
  encode s := .str s
  decode
    | .str s => some s
    | _ => none

instance : Wire Bool where
  encode b := .bool b
  decode
    | .bool b => some b
    | _ => none

instance : Wire Int where
  encode i := .int i
  decode := decodeWithin minInt64 maxInt64

instance : Wire Nat where
  encode n := .int n
  decode j := (decodeWithin 0 maxNat64 j).map Int.toNat

instance : Wire Decimal where
  encode d := .str d.text
  decode := Json.decimal?

instance : Wire ZonedTime where
  encode t := .str t.text
  decode
    | .str s => ZonedTime.ofText? s
    | _ => none

instance : Wire Instant where
  encode t := .str t.text
  decode
    | .str s => Instant.ofText? s
    | _ => none

/-- A value of a type with names is written as its name. A name that stands as
the only member of an object, with nothing to it, is read too. -/
instance {α : Type} [Named α] : Wire α where
  encode a := .str (Named.name a)
  decode
    | .str s => Named.ofName? s
    | .obj [(s, .null)] => Named.ofName? s
    | _ => none

instance {α : Type} [Wire α] : Wire (Option α) where
  encode
    | some a => encode a
    | none => .null
  decode
    | .null => some none
    | j => (decode j).map some

instance {α : Type} [Wire α] : Wire (List α) where
  encode items := .arr (items.map encode)
  decode
    | .arr items => items.mapM decode
    | _ => none

/-! ## Records -/

/-- The members of a record with these fields. An array may stop after the
first `needed` fields. -/
def members? (fields : List String) (needed : Nat) :
    Json → Option (List (String × Json))
  | .obj members => some members
  | .arr items =>
    if needed ≤ items.length ∧ items.length ≤ fields.length then
      some (fields.zip items)
    else
      none
  | _ => none

/-- A field that has to be there. -/
def required {α : Type} [Wire α] (members : List (String × Json))
    (name : String) : Option α :=
  (members.lookup name).bind decode

/-- A field that may be missing, or null, for want of a value. -/
def optional {α : Type} [Wire α] (members : List (String × Json))
    (name : String) : Option (Option α) :=
  match members.lookup name with
  | some j => decode j
  | none => some none

/-- A field with a value of its own where it is missing. -/
def defaulted {α : Type} [Wire α] (members : List (String × Json))
    (name : String) (value : α) : Option α :=
  match members.lookup name with
  | some j => decode j
  | none => some value

/-- A year, which may be missing or null. -/
def optionalYear (members : List (String × Json)) (name : String) :
    Option (Option Int) :=
  match members.lookup name with
  | some .null => some none
  | some j => (decodeInt32 j).map some
  | none => some none

end Wire
end Workforce
