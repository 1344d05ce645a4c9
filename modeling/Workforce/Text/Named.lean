/-!
Types with finitely many values, each known by a name of its own.
-/

namespace Workforce

/-- A list of all values of a type, and a name for each. -/
class Named (α : Type) where
  all : List α
  name : α → String

/-- The value of this name. -/
def Named.ofName? {α : Type} [Named α] (s : String) : Option α :=
  (Named.all (α := α)).find? fun a => Named.name a == s

end Workforce
