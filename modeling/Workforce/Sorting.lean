/-!
Sorted lists. A list is sorted by putting its members one by one in front of
the first that they may precede, so equal members keep their order.
-/

namespace Workforce

variable {α : Type}

/-- A list with one more member, in front of the first that it may precede. -/
def insertBy (le : α → α → Bool) (a : α) : List α → List α
  | [] => [a]
  | b :: rest => if le a b then a :: b :: rest else b :: insertBy le a rest

/-- The members of a list in an order. -/
def sortBy (le : α → α → Bool) : List α → List α
  | [] => []
  | a :: rest => insertBy le a (sortBy le rest)

end Workforce
