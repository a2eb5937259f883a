import IssueIntake.Json.Value
import IssueIntake.Decimal.Shortest
import IssueIntake.Calendar.Scan
import IssueIntake.Text.Quoted
/-!
# Faults of a JSON text

What can be wrong with a text that is read as JSON, or as a record in JSON, and how it is said.
-/

namespace IssueIntake.Json

/-- What stands where something else was expected. -/
inductive Found
  | null
  | bool (value : Bool)
  | whole (value : Int)
  | double (value : Double)
  | string (value : String)
  | sequence
  | map
  deriving DecidableEq, Repr

/-- How what is found is named in a message. -/
def Found.message : Found → String
  | null => "null"
  | bool b => "boolean `" ++ (if b then "true" else "false") ++ "`"
  | whole n => "integer `" ++ toString n ++ "`"
  | double x => "floating point `" ++ String.ofList x.chars ++ "`"
  | string s => "string " ++ Text.quoted s
  | sequence => "sequence"
  | map => "map"

/-- Why a text cannot be read. -/
inductive ReadError
  /-- The text ends where a value is due. -/
  | endInValue
  | endInObject
  | endInList
  | endInString
  | expectedValue
  /-- A word that begins like `true`, `false` or `null` and is another. -/
  | expectedWord
  | expectedColon
  | expectedMemberEnd
  | expectedItemEnd
  | keyNotString
  | trailingComma
  | trailingCharacters
  | invalidNumber
  | numberOutOfRange
  | invalidEscape
  /-- Half a surrogate pair that is not followed by an escape. -/
  | brokenPair
  /-- The second half of a surrogate pair by itself. -/
  | loneSurrogate
  | controlCharacter
  | tooDeep
  | missingField (name : String)
  | duplicateField (name : String)
  | unknownVariant (name expected : String)
  | invalidType (found : Found) (expected : String)
  | invalidValue (found : Found) (expected : String)
  | invalidLength (length : Nat) (expected : String)
  | instant (error : Instant.ParseError)
  deriving DecidableEq, Repr

/-- How a fault is said. Where in the text it is, which the source's own messages add at the end
(` at line L column C`), is left out. -/
def ReadError.message : ReadError → String
  | endInValue => "EOF while parsing a value"
  | endInObject => "EOF while parsing an object"
  | endInList => "EOF while parsing a list"
  | endInString => "EOF while parsing a string"
  | expectedValue => "expected value"
  | expectedWord => "expected ident"
  | expectedColon => "expected `:`"
  | expectedMemberEnd => "expected `,` or `\x7d`"
  | expectedItemEnd => "expected `,` or `]`"
  | keyNotString => "key must be a string"
  | trailingComma => "trailing comma"
  | trailingCharacters => "trailing characters"
  | invalidNumber => "invalid number"
  | numberOutOfRange => "number out of range"
  | invalidEscape => "invalid escape"
  | brokenPair => "unexpected end of hex escape"
  | loneSurrogate => "lone leading surrogate in hex escape"
  | controlCharacter => "control character (\\u0000-\\u001F) found while parsing a string"
  | tooDeep => "recursion limit exceeded"
  | missingField name => "missing field `" ++ name ++ "`"
  | duplicateField name => "duplicate field `" ++ name ++ "`"
  | unknownVariant name expected =>
    "unknown variant `" ++ name ++ "`, expected `" ++ expected ++ "`"
  | invalidType found expected => "invalid type: " ++ found.message ++ ", expected " ++ expected
  | invalidValue found expected => "invalid value: " ++ found.message ++ ", expected " ++ expected
  | invalidLength length expected =>
    "invalid length " ++ toString length ++ ", expected " ++ expected
  | instant error => error.message

end IssueIntake.Json
