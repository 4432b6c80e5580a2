import ForumQuery.Time.Instant
import ForumQuery.Time.Date

/-!
# Time stamps

The text of an instant in universal time, `2024-06-15T12:00:00.250Z`.  A year from 0 to 9999 has
four digits, any other a sign and at least four.  The fraction is left out when it is zero and
else has three, six or nine digits, the fewest that are exact.  A leap second is second 60 of its
minute.
-/

namespace ForumQuery

namespace Stamp

/-- A number with zeros in front up to a width. -/
def padded (width n : Nat) : String :=
  String.ofList (List.leftpad width '0' (Nat.toDigits 10 n))

/-- A year, with a sign where four digits are not enough. -/
def yearText (year : Int) : String :=
  if 0 ≤ year ∧ year ≤ 9999 then padded 4 year.toNat
  else (if year < 0 then "-" else "+") ++ padded 4 year.natAbs

/-- The fraction of a second, with its point. -/
def fractionText (nanos : Nat) : String :=
  if nanos = 0 then ""
  else if nanos % 1000000 = 0 then "." ++ padded 3 (nanos / 1000000)
  else if nanos % 1000 = 0 then "." ++ padded 6 (nanos / 1000)
  else "." ++ padded 9 nanos

end Stamp

namespace Instant

open Stamp

/-- The time stamp of an instant. -/
def stamp (instant : Instant) : String :=
  let date := Date.ofDays (instant.seconds / 86400)
  let clock := (instant.seconds % 86400).toNat
  let overrun := instant.nanos / 1000000000
  yearText date.year ++ "-" ++ padded 2 date.month.toNat ++ "-" ++ padded 2 date.day.toNat
    ++ "T" ++ padded 2 (clock / 3600) ++ ":" ++ padded 2 (clock / 60 % 60)
    ++ ":" ++ padded 2 (clock % 60 + overrun)
    ++ fractionText (instant.nanos % 1000000000) ++ "Z"

end Instant

end ForumQuery
