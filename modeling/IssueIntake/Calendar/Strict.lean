import IssueIntake.Calendar.Scan
/-!
# The strict form of instants

The form in which stored instants are read back: every number of date and time has its fixed
count of digits, nothing stands before or after, and the zone is `Z` or an offset with a colon.
-/

namespace IssueIntake.Instant

namespace Scan

/-- Two digits. -/
def twoDigits (cs : List Char) : Except ParseError (Nat × List Char) := do
  let (a, cs) ← digit cs
  let (b, cs) ← digit cs
  return (10 * a + b, cs)

/-- Four digits. -/
def fourDigits (cs : List Char) : Except ParseError (Nat × List Char) := do
  let (a, cs) ← twoDigits cs
  let (b, cs) ← twoDigits cs
  return (100 * a + b, cs)

end Scan

open Scan in
/-- The instant that a text in the strict form stands for. -/
def readStrict (cs : List Char) : Except ParseError Instant := do
  if (String.ofList cs).utf8ByteSize < 19 then throw .tooShort
  let (year, cs) ← fourDigits cs
  let (month, cs) ← twoDigits (← literal '-' cs)
  let (day, cs) ← twoDigits (← literal '-' cs)
  let some date := Date.ofParts? year month day | throw .outOfRange
  let (hour, cs) ← twoDigits (← separator cs)
  let (minute, cs) ← twoDigits (← literal ':' cs)
  let (second, cs) ← twoDigits (← literal ':' cs)
  let (nano, cs) ← optionalFraction cs
  let some localTime := local? date hour minute second nano | throw .outOfRange
  let (offset, cs) ← zone (literal ':') cs
  if cs ≠ [] then throw .tooLong
  toUtc localTime offset

/-- The instant that a text in the strict form stands for. -/
def parseStrict (s : String) : Except ParseError Instant :=
  readStrict s.toList

end IssueIntake.Instant
