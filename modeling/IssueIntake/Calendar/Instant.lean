import IssueIntake.Calendar.Date
/-!
# Instants

Points in time in UTC, to the nanosecond. A leap second is the second 59 of a minute with a
billion nanoseconds more, so `nano` counts up to two billion there and every minute may end in
one. Instants are ordered by date, then by the time of day.
-/

namespace IssueIntake

/-- A point in time. Only a second 59 can be a leap second: this leaves out nanoseconds above a
billion after other seconds, which no text spells and no clock shows. -/
structure Instant where
  date : Date
  hour : Nat
  minute : Nat
  second : Nat
  nano : Nat
  hour_lt : hour < 24
  minute_lt : minute < 60
  second_lt : second < 60
  nano_lt : nano < 2000000000
  leap_last : 1000000000 ≤ nano → second = 59
  deriving DecidableEq, Repr

namespace Instant

/-- The instant with the given parts, if the time of day exists. -/
def ofParts? (date : Date) (hour minute second nano : Nat) : Option Instant :=
  if h : hour < 24 ∧ minute < 60 ∧ second < 60 ∧ nano < 2000000000 ∧
      (1000000000 ≤ nano → second = 59) then
    some ⟨date, hour, minute, second, nano, h.1, h.2.1, h.2.2.1, h.2.2.2.1, h.2.2.2.2⟩
  else none

/-- A number that grows with the instant: date and time of day in a mixed radix. -/
def rank (t : Instant) : Int :=
  (((((t.date.year * 13 + t.date.month) * 32 + t.date.day) * 24 + t.hour) * 60 + t.minute) * 60 +
    t.second) * 2000000000 + t.nano

/-- The later of two instants. -/
def later (a b : Instant) : Instant :=
  if a.rank ≤ b.rank then b else a

/-- One second after an instant, unless that lies past the last year. A leap second is followed
by the same fraction of the next minute's first second. -/
def secondLater? (t : Instant) : Option Instant :=
  let nano := if 1000000000 ≤ t.nano then t.nano - 1000000000 else t.nano
  if t.second + 1 < 60 then ofParts? t.date t.hour t.minute (t.second + 1) nano
  else if t.minute + 1 < 60 then ofParts? t.date t.hour (t.minute + 1) 0 nano
  else if t.hour + 1 < 24 then ofParts? t.date (t.hour + 1) 0 0 nano
  else t.date.next?.bind (ofParts? · 0 0 0 nano)

/-- The instant a number of minutes away, less than a day in either direction. -/
def minutesLater? (t : Instant) (minutes : Int) : Option Instant :=
  let total : Int := t.hour * 60 + t.minute + minutes
  let date? :=
    if total < 0 then t.date.prev?
    else if total < 1440 then some t.date
    else t.date.next?
  let ofDay := (total % 1440).toNat
  date?.bind (ofParts? · (ofDay / 60) (ofDay % 60) t.second t.nano)

/-- Whole seconds since the start of 1970. -/
def unixSeconds (t : Instant) : Int :=
  t.date.dayNumber * 86400 + t.hour * 3600 + t.minute * 60 + t.second

/-- Nanoseconds since the start of 1970. -/
def unixNanos (t : Instant) : Int :=
  t.unixSeconds * 1000000000 + t.nano

/-- The time since 1970 as a number: in nanoseconds where they fit a signed word of 64 bits, else
in whole seconds. -/
def stamp (t : Instant) : Int :=
  if -9223372036854775808 ≤ t.unixNanos ∧ t.unixNanos ≤ 9223372036854775807 then t.unixNanos
  else t.unixSeconds

end Instant

end IssueIntake
