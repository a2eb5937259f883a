import IssueIntake.Digest.Sha256
import IssueIntake.Text.Bytes
/-!
# Streams of named fields

A sequence of named values as one byte stream, for hashing: each field contributes
`name:<byte length of the value>:value` and a line feed. The length in front of each value keeps
the boundaries of the fields apart whatever the values contain.
-/

namespace IssueIntake

/-- A named value, as it enters a fingerprint. -/
structure NamedField where
  name : String
  value : String
  deriving DecidableEq, Repr

namespace NamedField

/-- A whole number, written in decimal. -/
def ofInt (name : String) (value : Int) : NamedField := ⟨name, toString value⟩

/-- A truth value, written `true` or `false`. -/
def ofBool (name : String) (value : Bool) : NamedField := ⟨name, if value then "true" else "false"⟩

/-- A value that may be absent: then it contributes no field at all. -/
def ofOption (name : String) (value : Option String) : List NamedField :=
  (value.map (⟨name, ·⟩)).toList

/-- What one field contributes to the stream. -/
def bytes (field : NamedField) : List UInt8 :=
  let value := Text.utf8 field.value
  Text.utf8 field.name ++ Text.utf8 ":" ++ Text.utf8 (toString value.length) ++ Text.utf8 ":" ++
    value ++ Text.utf8 "\n"

/-- The stream of a sequence of fields. -/
def stream (fields : List NamedField) : List UInt8 :=
  fields.flatMap bytes

/-- The hash of a sequence of fields, in lower-case hexadecimal digits. -/
def hash (fields : List NamedField) : String :=
  Sha256.hexDigest (stream fields)

end NamedField

end IssueIntake
