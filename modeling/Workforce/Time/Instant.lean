import Workforce.Number

/-!
Instants, and instants as a wall clock with a fixed offset shows them.

Every minute has sixty seconds: there are no leap seconds. Instants are kept up
to the end of the year 262142, and to step beyond that overflows.
-/

namespace Workforce

/-- A point in time: the nanoseconds since the start of 1970 in UTC. -/
structure Instant where
  nanoseconds : Int
deriving DecidableEq, Repr

namespace Instant

instance : Inhabited Instant := ⟨⟨0⟩⟩

instance : LE Instant := ⟨fun a b => a.nanoseconds ≤ b.nanoseconds⟩

instance : LT Instant := ⟨fun a b => a.nanoseconds < b.nanoseconds⟩

instance (a b : Instant) : Decidable (a ≤ b) :=
  inferInstanceAs (Decidable (a.nanoseconds ≤ b.nanoseconds))

instance (a b : Instant) : Decidable (a < b) :=
  inferInstanceAs (Decidable (a.nanoseconds < b.nanoseconds))

theorem le_iff {a b : Instant} : a ≤ b ↔ a.nanoseconds ≤ b.nanoseconds :=
  Iff.rfl

theorem lt_iff {a b : Instant} : a < b ↔ a.nanoseconds < b.nanoseconds :=
  Iff.rfl

/-- The nanoseconds of a second. -/
def perSecond : Int := 1000000000

/-- The nanoseconds of a minute. -/
def perMinute : Int := 60 * perSecond

/-- The nanoseconds of a day. -/
def perDay : Int := 86400 * perSecond

/-- The last instant that is kept: the end of the year 262142 in UTC. -/
def latest : Instant := ⟨8210266876799999999999⟩

/-- The instant so many whole minutes later, whether or not it is kept. -/
def addMinutes (t : Instant) (minutes : Int) : Instant :=
  ⟨t.nanoseconds + minutes * perMinute⟩

end Instant

/-- An instant together with the offset of the wall clock it was read from, in
minutes east of UTC and less than a day. -/
structure ZonedTime where
  instant : Instant
  offset : Int
  offset_lt : offset.natAbs < 1440
deriving DecidableEq, Repr

namespace ZonedTime

instance : Inhabited ZonedTime := ⟨⟨default, 0, by decide⟩⟩

/-- An instant on a clock that shows UTC. -/
def ofInstant (t : Instant) : ZonedTime := ⟨t, 0, by decide⟩

/-- The nanoseconds that the wall clock shows since the start of its 1970. -/
def localNanoseconds (t : ZonedTime) : Int :=
  t.instant.nanoseconds + t.offset * Instant.perMinute

/-- The same wall clock so many whole minutes later, whether or not this is
kept. -/
def addMinutes (t : ZonedTime) (minutes : Int) : ZonedTime :=
  { t with instant := t.instant.addMinutes minutes }

/-- The same wall clock a minute later. -/
def nextMinute (t : ZonedTime) : Except Overflow ZonedTime :=
  let next := t.addMinutes 1
  if next.instant ≤ Instant.latest then .ok next else .error .instant

/-- The hour of the day that the wall clock shows. -/
def hour (t : ZonedTime) : Int :=
  t.localNanoseconds % Instant.perDay / (60 * Instant.perMinute)

end ZonedTime
end Workforce
