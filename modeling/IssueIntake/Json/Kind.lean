import IssueIntake.Json.Reader
import IssueIntake.Json.Printer
import IssueIntake.Calendar.Relaxed
import IssueIntake.Calendar.Printer
/-!
# Kinds of fields

The values that a field of a record can have, how each is read and how it is written. A record is
then described by a name and a kind for each of its fields, and what has been read of it by the
fields that are given.
-/

namespace IssueIntake.Json

/-- What a field holds. -/
inductive Kind
  | text
  | optionalText
  | flag
  /-- A signed whole number of 32 bits. -/
  | int32
  | moment
  | optionalMoment
  /-- Any value at all; `null` stands for none. -/
  | optionalAny
  deriving DecidableEq

namespace Kind

/-- The values of a kind. -/
@[reducible] def Value : Kind → Type
  | text => String
  | optionalText => Option String
  | flag => Bool
  | int32 => Int
  | moment => Instant
  | optionalMoment => Option Instant
  | optionalAny => Option Json

/-- A text. -/
def textOf : Head → Except ReadError String
  | .string s => .ok s
  | h => .error (.invalidType h.found "a string")

/-- A truth value. -/
def flagOf : Head → Except ReadError Bool
  | .bool b => .ok b
  | h => .error (.invalidType h.found "a boolean")

/-- A whole number of 32 bits. -/
def int32Of : Head → Except ReadError Int
  | .number (.whole n) =>
    if -2147483648 ≤ n ∧ n ≤ 2147483647 then .ok n else .error (.invalidValue (.whole n) "i32")
  | h => .error (.invalidType h.found "i32")

/-- An instant in the relaxed form. -/
def momentOf : Head → Except ReadError Instant
  | .string s =>
    match Instant.parseRelaxed s with
    | .ok t => .ok t
    | .error e => .error (.instant e)
  | h => .error (.invalidType h.found "an RFC 3339 formatted date and time string")

/-- A value that may be `null`. -/
def optionalOf {α : Type} (of : Head → Except ReadError α) : Head → Except ReadError (Option α)
  | .null => .ok none
  | h => (of h).map some

/-- Reads a field whose value begins with a head. -/
def finishField (levels : Nat) :
    (k : Kind) → Head → List Char → Except ReadError (k.Value × List Char)
  | text, h, cs => (textOf h).map (·, cs)
  | optionalText, h, cs => (optionalOf textOf h).map (·, cs)
  | flag, h, cs => (flagOf h).map (·, cs)
  | int32, h, cs => (int32Of h).map (·, cs)
  | moment, h, cs => (momentOf h).map (·, cs)
  | optionalMoment, h, cs => (optionalOf momentOf h).map (·, cs)
  | optionalAny, .null, cs => .ok (none, cs)
  | optionalAny, h, cs => (finish levels h cs).map fun (v, cs) => (some v.normalize, cs)

/-- Reads the value of a field. -/
def readField (levels : Nat) (k : Kind) (cs : List Char) :
    Except ReadError (k.Value × List Char) := do
  let (h, cs) ← readHead cs
  k.finishField levels h cs

/-- The value of a field, from JSON that has been read before. -/
def ofJson : (k : Kind) → Json → Except ReadError k.Value
  | text, v => textOf v.head
  | optionalText, v => optionalOf textOf v.head
  | flag, v => flagOf v.head
  | int32, v => int32Of v.head
  | moment, v => momentOf v.head
  | optionalMoment, v => optionalOf momentOf v.head
  | optionalAny, .null => .ok none
  | optionalAny, v => .ok (some v.normalize)

/-- A moment in writing. -/
def momentJson (t : Instant) : Json :=
  .string (t.text .short)

/-- The value of a field in JSON; none where there is no value to write. -/
def toJson? : (k : Kind) → k.Value → Option Json
  | text, s => some (.string s)
  | optionalText, s => s.map .string
  | flag, b => some (.bool b)
  | int32, n => some (.number (.whole n))
  | moment, t => some (momentJson t)
  | optionalMoment, t => t.map momentJson
  | optionalAny, v => v

end Kind

/-! ## Fields of a record -/

section Fields

variable {φ : Type} {kind : φ → Kind}

/-- The field with a name. -/
def fieldNamed? (fields : List φ) (name : φ → String) (s : String) : Option φ :=
  fields.find? (name · == s)

/-- The values of some of the fields of a record. -/
abbrev Given (kind : φ → Kind) := (f : φ) → Option (kind f).Value

namespace Given

/-- No field at all. -/
def none : Given kind := fun _ => Option.none

/-- With one more field. -/
def set [DecidableEq φ] (given : Given kind) (f : φ) (value : (kind f).Value) : Given kind :=
  fun g => if h : f = g then some (h ▸ value) else given g

end Given

end Fields

end IssueIntake.Json
