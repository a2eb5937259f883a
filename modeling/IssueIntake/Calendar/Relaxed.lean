import IssueIntake.Calendar.Scan
/-!
# The relaxed form of instants

The form in which instants arrive from outside: blanks may stand around the numbers, years may
have a sign and any number of digits, other numbers one digit or two, and the zone may be written
`UTC`. Parts are checked as they are read, so the first fault in the text is the one reported;
whether the date exists is asked at the end.
-/

namespace IssueIntake.Instant

open Text

namespace Scan

/-- A year: up to four digits, or a sign and any number of them. -/
def year (cs : List Char) : Except ParseError (Int × List Char) := do
  let (y, rest) ← match dropBlank cs with
    | '-' :: rest => (number rest.length rest).map fun (n, rest) => (-(n : Int), rest)
    | '+' :: rest => (number rest.length rest).map fun (n, rest) => ((n : Int), rest)
    | cs => (number 4 cs).map fun (n, rest) => ((n : Int), rest)
  if -2147483648 ≤ y ∧ y ≤ 2147483647 then return (y, rest) else throw .outOfRange

/-- One or two digits after any blanks, with a value from `low` to `high`. -/
def part (low high : Nat) (cs : List Char) : Except ParseError (Nat × List Char) := do
  let (n, rest) ← number 2 (dropBlank cs)
  if low ≤ n ∧ n ≤ high then return (n, rest) else throw .outOfRange

/-- An expected character after any blanks. -/
def spaced (expected : Char) (cs : List Char) : Except ParseError (List Char) :=
  literal expected (dropBlank cs)

/-- `UTC` in letters of either case, or a zone whose hours and minutes may be apart. -/
def looseZone (cs : List Char) : Except ParseError (Int × List Char) :=
  match cs with
  | a :: b :: c :: rest =>
    if a.toUpper = 'U' && b.toUpper = 'T' && c.toUpper = 'C' then .ok (0, rest)
    else zone between cs
  | _ => zone between cs
where
  between (cs : List Char) : Except ParseError (List Char) :=
    .ok (cs.dropWhile fun c => c = ':' || isBlank c)

end Scan

open Scan in
/-- The instant that a text in the relaxed form stands for. -/
def readRelaxed (cs : List Char) : Except ParseError Instant := do
  let (year, cs) ← Scan.year cs
  let (month, cs) ← part 1 12 (← spaced '-' cs)
  let (day, cs) ← part 1 31 (← spaced '-' cs)
  let cs ← separator cs
  let (hour, cs) ← part 0 23 cs
  let (minute, cs) ← part 0 59 (← spaced ':' cs)
  let (second, cs) ← part 0 60 (← spaced ':' cs)
  let (nano, cs) ← optionalFraction cs
  let (offset, cs) ← looseZone (dropBlank cs)
  if dropBlank cs ≠ [] then throw .tooLong
  match (Date.ofParts? year month day).bind (local? · hour minute second nano) with
  | some localTime => toUtc localTime offset
  | none => throw .outOfRange

/-- The instant that a text in the relaxed form stands for. -/
def parseRelaxed (s : String) : Except ParseError Instant :=
  readRelaxed s.toList

end IssueIntake.Instant
