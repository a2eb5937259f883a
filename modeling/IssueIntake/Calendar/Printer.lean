import IssueIntake.Calendar.Instant
import IssueIntake.Decimal.Digits
/-!
# Writing instants

An instant is written as `YYYY-MM-DDTHH:MM:SS`, a fraction and a zone. What the written forms
differ in is one `Format`.
-/

namespace IssueIntake.Instant

/-- How fraction and zone are written. -/
structure Format where
  /-- Always nine digits of fraction; else the fewest of none, three, six and nine that are
  exact. -/
  allNano : Bool
  zone : String

/-- The form in issue and event texts. -/
def Format.short : Format := ⟨false, "Z"⟩

/-- The form shown to people. -/
def Format.shown : Format := ⟨false, "+00:00"⟩

/-- The form in stored rows. -/
def Format.stored : Format := ⟨true, "Z"⟩

/-- Four digits from 0 to 9999; outside, a sign and at least four. -/
def yearText (year : Int) : List Char :=
  if 0 ≤ year ∧ year ≤ 9999 then Decimal.fixed 4 year.toNat
  else (if year < 0 then '-' else '+') :: Decimal.padded 4 year.natAbs

/-- The fraction of a second, below a billion nanoseconds. -/
def fractionText (allNano : Bool) (nano : Nat) : List Char :=
  if allNano then '.' :: Decimal.fixed 9 nano
  else if nano = 0 then []
  else if nano % 1000000 = 0 then '.' :: Decimal.fixed 3 (nano / 1000000)
  else if nano % 1000 = 0 then '.' :: Decimal.fixed 6 (nano / 1000)
  else '.' :: Decimal.fixed 9 nano

/-- The characters of an instant. A leap second is written as second 60. -/
def chars (f : Format) (t : Instant) : List Char :=
  let leap := decide (1000000000 ≤ t.nano)
  let second := if leap then t.second + 1 else t.second
  let nano := if leap then t.nano - 1000000000 else t.nano
  yearText t.date.year ++ '-' :: Decimal.fixed 2 t.date.month ++
    '-' :: Decimal.fixed 2 t.date.day ++
    'T' :: Decimal.fixed 2 t.hour ++ ':' :: Decimal.fixed 2 t.minute ++
    ':' :: Decimal.fixed 2 second ++ fractionText f.allNano nano ++ f.zone.toList

/-- An instant in writing. -/
def text (f : Format) (t : Instant) : String :=
  String.ofList (chars f t)

end IssueIntake.Instant
