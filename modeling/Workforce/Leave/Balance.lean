import Workforce.Access.Tenant
import Workforce.Fault
import Workforce.Leave.Request
import Workforce.Time.Instant

/-!
Leave balances: the days granted to an employee, the days used, and the yearly
settlement that carries some of the rest over.

The figures are exact integers here, and are kept in 64 bits. Nothing checks the
sums of a charge or a settlement: beyond 64 bits they wrap around, or stop the
call where overflow is checked for. Up to there they are the exact ones.
-/

namespace Workforce

/-- The ledger of an employee. -/
structure LeaveBalance where
  employee : String
  organization : Option String
  grantedDays : Int
  usedDays : Int
  remainingDays : Int
  carryOverDays : Int
  lastAccrualYear : Option Int
  updatedAt : Instant
deriving DecidableEq, Repr

instance : Owned LeaveBalance := ⟨LeaveBalance.organization⟩

/-- The terms on which a year is settled. -/
structure Settlement where
  year : Int
  annualGrantDays : Int
  carryOverCapDays : Int
deriving DecidableEq, Repr

/-- Settlement terms for a year of four digits, at least one day granted and
no negative cap. -/
def Settlement.of (year annualGrantDays carryOverCapDays : Int) :
    Outcome Settlement := do
  Outcome.ensure (2000 ≤ year ∧ year ≤ 9999)
    (.validation "year must be a valid 4-digit year")
  Outcome.ensure (0 < annualGrantDays)
    (.validation "annualGrantDays must be a positive integer")
  Outcome.ensure (0 ≤ carryOverCapDays)
    (.validation "carryOverCapDays must be a non-negative integer")
  return { year, annualGrantDays, carryOverCapDays }

namespace LeaveBalance

/-- A new ledger, with days granted and none used. -/
def fresh (employee : String) (organization : Option String)
    (grantedDays : Int) (now : Instant) : LeaveBalance :=
  { employee
    organization
    grantedDays
    usedDays := 0
    remainingDays := grantedDays
    carryOverDays := 0
    lastAccrualYear := none
    updatedAt := now }

/-- Charges days. What remains may become negative. The figures are exact, which
those of 64 bits are as long as they fit. -/
def use (b : LeaveBalance) (days : Int) (now : Instant) : LeaveBalance :=
  { b with
    usedDays := b.usedDays + days
    remainingDays := b.grantedDays - (b.usedDays + days)
    updatedAt := now }

/-- The days that a settlement carries over: what remains, but no debt and no
more than the cap. -/
def carriedOver (b : LeaveBalance) (s : Settlement) : Int :=
  min (max b.remainingDays 0) s.carryOverCapDays

/-- Whether a year is settled already, or a later one. -/
def isSettledFor (b : LeaveBalance) (year : Int) : Bool :=
  b.lastAccrualYear.any (year ≤ ·)

/-- Starts a year: nothing is used, and the grant of the year comes on top of
what is carried over. Years are settled in increasing order. The sum of the two
is exact, and no terms are refused because it takes more than 64 bits. -/
def settle (b : LeaveBalance) (s : Settlement) (now : Instant) :
    Outcome LeaveBalance := do
  Outcome.ensure (!b.isSettledFor s.year)
    (.conflict "leave accrual already settled for the same or newer year")
  let carryOverDays := b.carriedOver s
  let grantedDays := s.annualGrantDays + carryOverDays
  return { b with
    grantedDays
    usedDays := 0
    remainingDays := grantedDays
    carryOverDays
    lastAccrualYear := some s.year
    updatedAt := now }

end LeaveBalance

/-- A request that was approved, and the ledger it was charged to. -/
structure LeaveApproval where
  request : LeaveRequest
  balance : LeaveBalance
deriving DecidableEq, Repr

end Workforce
