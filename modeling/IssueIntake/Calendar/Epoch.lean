import IssueIntake.Calendar.Instant
/-!
# Instants from a count

Dates and instants from the number of days or nanoseconds since the start of 1970, as a clock
gives it.
-/

namespace IssueIntake

/-- The start of 1970. -/
def Instant.epoch : Instant :=
  ⟨⟨1970, 1, 1, by decide, by decide, by decide⟩, 0, 0, 0, 0, by decide, by decide, by decide,
    by decide, by decide⟩

/-- The date a number of days after 1 January 1970. Years are counted from March, so that the leap
day comes last, in cycles of 400 years. -/
def Date.ofDayNumber? (days : Int) : Option Date :=
  let z := days + 719468
  let cycle := z / 146097
  let day := (z % 146097).toNat
  let year := (day - day / 1460 + day / 36524 - day / 146096) / 365
  let ofYear := day - (365 * year + year / 4 - year / 100)
  let fromMarch := (5 * ofYear + 2) / 153
  let dayOfMonth := ofYear - (153 * fromMarch + 2) / 5 + 1
  let month := if fromMarch < 10 then fromMarch + 3 else fromMarch - 9
  Date.ofParts? (cycle * 400 + year + (if month ≤ 2 then 1 else 0)) month dayOfMonth

/-- The instant a number of nanoseconds after the start of 1970. -/
def Instant.ofUnixNanos? (nanos : Int) : Option Instant :=
  let seconds := nanos / 1000000000
  let ofDay := (seconds % 86400).toNat
  (Date.ofDayNumber? (seconds / 86400)).bind
    (Instant.ofParts? · (ofDay / 3600) (ofDay / 60 % 60) (ofDay % 60) (nanos % 1000000000).toNat)

end IssueIntake
