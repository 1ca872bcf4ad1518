import TableSchema.Calendar.Date

/-!
# Instants

A moment in seconds since the start of 1970 and nanoseconds within the second. A leap second belongs to
the second in front of it, whose nanoseconds go on from a thousand million. Any second can have one behind it,
but texts and numbers give only those that end a minute.
-/

namespace TableSchema

structure Instant where
  seconds : Int
  nanos : Nat
  nanos_lt : nanos < 2000000000
deriving DecidableEq, Repr

namespace Instant

/-- Outside of leap seconds, or in one that ends a minute. -/
def Regular (t : Instant) : Prop :=
  t.nanos < 1000000000 ∨ t.seconds % 60 = 59

instance (t : Instant) : Decidable t.Regular :=
  inferInstanceAs (Decidable (t.nanos < 1000000000 ∨ t.seconds % 60 = 59))

/-- The regular moment with these parts. -/
def ofParts? (seconds : Int) (nanos : Nat) : Option Instant :=
  if h : nanos < 2000000000 ∧ (nanos < 1000000000 ∨ seconds % 60 = 59) then
    some ⟨seconds, nanos, h.1⟩
  else none

/-- Midnight at the start of a day. -/
def ofDay (days : Int) : Instant :=
  ⟨86400 * days, 0, by decide⟩

/-- The moment a number of milliseconds after the start of 1970, if its year is one that dates are kept
for. -/
def ofMillis? (millis : Int) : Option Instant :=
  let seconds := millis / 1000
  let year := Date.yearOf (seconds / 86400)
  if Date.firstYear ≤ year ∧ year ≤ Date.lastYear then
    ofParts? seconds ((millis % 1000).toNat * 1000000)
  else none

/-- Whole milliseconds; within a leap second they run into the next second. -/
def toMillis (t : Instant) : Int :=
  1000 * t.seconds + t.nanos / 1000000

def isLeap (t : Instant) : Bool :=
  1000000000 ≤ t.nanos

def notAfter (t u : Instant) : Bool :=
  t.seconds < u.seconds || (t.seconds == u.seconds && t.nanos ≤ u.nanos)

end Instant

end TableSchema
