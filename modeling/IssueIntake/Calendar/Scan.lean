import IssueIntake.Calendar.Instant
import IssueIntake.Decimal.Digits
import IssueIntake.Text.Blank
/-!
# Scanning the parts of an instant

What the two readers of instants share: their errors, numbers, fractions of a second, time
zones, and the step from the parts of a local time to an instant.
-/

namespace IssueIntake.Instant

/-- Why a text is not an instant. -/
inductive ParseError
  | tooShort
  | invalid
  | outOfRange
  | tooLong
  /-- The local time exists, but not the instant in UTC. -/
  | impossible
  deriving DecidableEq, Repr

/-- How an error is said. -/
def ParseError.message : ParseError → String
  | tooShort => "premature end of input"
  | invalid => "input contains invalid characters"
  | outOfRange => "input is out of range"
  | tooLong => "trailing input"
  | impossible => "no possible date and time matching input"

namespace Scan

/-- One expected character. -/
def literal (expected : Char) : List Char → Except ParseError (List Char)
  | [] => .error .tooShort
  | c :: rest => if c = expected then .ok rest else .error .invalid

/-- One digit. -/
def digit : List Char → Except ParseError (Nat × List Char)
  | [] => .error .tooShort
  | c :: rest => if c.isDigit then .ok (Decimal.digitValue c, rest) else .error .invalid

/-- The letter or blank between date and time of day. -/
def separator : List Char → Except ParseError (List Char)
  | [] => .error .tooShort
  | c :: rest => if c = 'T' || c = 't' || c = ' ' then .ok rest else .error .invalid

/-- The number that the digits at the front spell, where at most `limit` of the characters are
looked at. There has to be a digit, and the number has to fit a signed word of 64 bits. -/
def number (limit : Nat) (cs : List Char) : Except ParseError (Nat × List Char) :=
  let digits := (cs.take limit).takeWhile Char.isDigit
  if cs.isEmpty then .error .tooShort
  else if digits.isEmpty then .error .invalid
  else if Decimal.value digits ≤ 9223372036854775807 then
    .ok (Decimal.value digits, cs.drop digits.length)
  else .error .outOfRange

/-- Nanoseconds from the digits after the point; those past the ninth are skipped. -/
def fraction (cs : List Char) : Except ParseError (Nat × List Char) := do
  let (n, rest) ← number 9 cs
  let count := cs.length - rest.length
  return (n * Nat.pow 10 (9 - count), rest.dropWhile Char.isDigit)

/-- A fraction, if there is a point. -/
def optionalFraction : List Char → Except ParseError (Nat × List Char)
  | '.' :: rest => fraction rest
  | cs => .ok (0, cs)

/-- The error where two digits are due and the text is too short or has something else. -/
def pairError (cs : List Char) : ParseError :=
  if (String.ofList cs).utf8ByteSize < 2 then .tooShort else .invalid

/-- Two digits of an offset's hours. -/
def offsetHours : List Char → Except ParseError (Nat × List Char)
  | a :: b :: rest =>
    if a.isDigit && b.isDigit then .ok (10 * Decimal.digitValue a + Decimal.digitValue b, rest)
    else .error .invalid
  | cs => .error (pairError cs)

/-- Two digits of an offset's minutes, up to 59. -/
def offsetMinutes : List Char → Except ParseError (Nat × List Char)
  | a :: b :: rest =>
    if a.isDigit && b.isDigit then
      if Decimal.digitValue a < 6 then
        .ok (10 * Decimal.digitValue a + Decimal.digitValue b, rest)
      else .error .outOfRange
    else .error .invalid
  | cs => .error (pairError cs)

/-- The sign of an offset: `true` for the west. -/
def offsetSign : List Char → Except ParseError (Bool × List Char)
  | [] => .error .tooShort
  | c :: rest =>
    if c = '+' then .ok (false, rest)
    else if c = '-' || c = '\u2212' then .ok (true, rest)
    else .error .invalid

/-- A time zone as minutes east of UTC: `Z`, or a sign, hours, what `between` passes over, and
minutes. -/
def zone (between : List Char → Except ParseError (List Char)) (cs : List Char) :
    Except ParseError (Int × List Char) :=
  match cs with
  | 'Z' :: rest | 'z' :: rest => .ok (0, rest)
  | _ => do
    let (west, cs) ← offsetSign cs
    let (hours, cs) ← offsetHours cs
    let cs ← between cs
    let (minutes, cs) ← offsetMinutes cs
    let total : Int := hours * 60 + minutes
    return (if west then -total else total, cs)

/-- The time of day that is written with a second up to 60, on a date. -/
def local? (date : Date) (hour minute second nano : Nat) : Option Instant :=
  if second = 60 then ofParts? date hour minute 59 (nano + 1000000000)
  else ofParts? date hour minute second nano

/-- The instant in UTC of a local time and its offset in minutes. -/
def toUtc (localTime : Instant) (offset : Int) : Except ParseError Instant :=
  if offset.natAbs < 1440 then
    match localTime.minutesLater? (-offset) with
    | some t => .ok t
    | none => .error .impossible
  else .error .outOfRange

end Scan

end IssueIntake.Instant
