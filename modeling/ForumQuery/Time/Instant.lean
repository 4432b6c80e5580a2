/-!
# Instants

A point in time, counted in seconds and nanoseconds from the start of 1970.  A leap second is
counted as a second of more than 10⁹ nanoseconds, and it only ever follows the second 59 of a
minute.  Instants are ordered by their seconds first.
-/

namespace ForumQuery

/-- A point in time. -/
structure Instant where
  /-- whole seconds since the start of 1970 -/
  seconds : Int
  /-- nanoseconds into that second -/
  nanos : Nat
  nanos_lt : nanos < 2000000000 := by omega
  leap : 1000000000 ≤ nanos → seconds % 60 = 59 := by omega
  deriving DecidableEq, Repr

namespace Instant

/-- The instant of a count of seconds and nanoseconds, where there is one. -/
def ofParts? (seconds : Int) (nanos : Nat) : Option Instant :=
  if h : nanos < 2000000000 ∧ (1000000000 ≤ nanos → seconds % 60 = 59) then
    some ⟨seconds, nanos, h.1, h.2⟩
  else none

/-- One instant lies before another. -/
def Before (a b : Instant) : Prop :=
  a.seconds < b.seconds ∨ a.seconds = b.seconds ∧ a.nanos < b.nanos

instance : LT Instant := ⟨Before⟩

instance (a b : Instant) : Decidable (a < b) :=
  inferInstanceAs (Decidable (_ ∨ _ ∧ _))

end Instant

end ForumQuery
