/-
Points in time, to the nanosecond.

An instant is a count of seconds from 1970-01-01T00:00:00Z and a count of nanoseconds
in that second.  Inside a leap second, 23:59:60, the seconds stay at :59 and the
nanoseconds run on past a second.  The calendar is known from the beginning of the
year -262143 to the end of the year 262142, and there is no instant outside it.
-/
import Conform.Instant.Calendar

namespace Conform

namespace Instant

/-- The first second of the year -262143. -/
def firstSecond : Int := -8334601228800

/-- The last second of the year 262142. -/
def lastSecond : Int := 8210266876799

/-- The seconds are in the calendar, and only the last second of a minute may run on. -/
def Valid (seconds : Int) (nanos : Nat) : Prop :=
  firstSecond ≤ seconds ∧ seconds ≤ lastSecond ∧
    (nanos < 1000000000 ∨ nanos < 2000000000 ∧ seconds % 60 = 59)

instance (seconds : Int) (nanos : Nat) : Decidable (Valid seconds nanos) :=
  inferInstanceAs (Decidable (_ ∧ _ ∧ _))

end Instant

/-- A point in time. -/
structure Instant where
  seconds : Int
  nanos : Nat
  valid : Instant.Valid seconds nanos
  deriving DecidableEq

namespace Instant

/-- The instant at a count of seconds and nanoseconds, if there is one. -/
def ofUnix? (seconds : Int) (nanos : Nat) : Option Instant :=
  if valid : Valid seconds nanos then some ⟨seconds, nanos, valid⟩ else none

/-- The instant at a count of milliseconds, if there is one. -/
def ofMillis? (millis : Int) : Option Instant :=
  ofUnix? (millis / 1000) ((millis % 1000).toNat * 1000000)

/-- Milliseconds from 1970-01-01T00:00:00Z, what is left of a millisecond dropped. -/
def toMillis (t : Instant) : Int :=
  t.seconds * 1000 + t.nanos / 1000000

/-- `s` is no later than `t`. -/
def atMost (s t : Instant) : Bool :=
  decide (s.seconds < t.seconds ∨ s.seconds = t.seconds ∧ s.nanos ≤ t.nanos)

end Instant

end Conform
