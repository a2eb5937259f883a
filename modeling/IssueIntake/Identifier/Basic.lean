import IssueIntake.Text.Pieces
/-!
# Issue identifiers

An identifier is a namespace, a dash and a key. The dash is the last one of the identifier, so
a namespace may itself contain dashes. A key is a word of ASCII letters and digits, followed by
any number of ordinals, each a dot and ASCII digits: `PROJ-web-a3f8.1.2` has the namespace
`PROJ-web`, the key `a3f8.1.2` and lies two levels below `PROJ-web-a3f8`.
-/

namespace IssueIntake.Identifier

open Text

/-- ASCII letters and digits, at least one. -/
def isWord (cs : List Char) : Bool :=
  !cs.isEmpty && cs.all Char.isAlphanum

/-- ASCII digits, at least one. -/
def isOrdinal (cs : List Char) : Bool :=
  !cs.isEmpty && cs.all Char.isDigit

/-- A word, then ordinals with a dot before each. -/
def isKey (cs : List Char) : Bool :=
  match pieces '.' cs with
  | [] => false
  | word :: ordinals => isWord word && ordinals.all isOrdinal

/-- The namespace and the key, when the identifier has a non-empty namespace and a well-formed
key. -/
def split (id : String) : Option (String × String) :=
  match splitLast '-' id.toList with
  | some (space, key) =>
    if !space.isEmpty && isKey key then some (String.ofList space, String.ofList key) else none
  | none => none

/-- How many levels an identifier lies below a top-level one. A malformed identifier counts as
top-level. -/
def depth (id : String) : Nat :=
  match split id with
  | some (_, key) => key.toList.count '.'
  | none => 0

/-- The namespace of a token's issues below a base namespace; the empty token stands for the
base itself. -/
def space (base token : String) : String :=
  if token.isEmpty then base else base ++ "-" ++ token

/-- Whether an identifier lies directly in a namespace and has no ordinals. -/
def isTopLevelIn (space id : String) : Bool :=
  match split id with
  | some (s, key) => s == space && !key.toList.contains '.'
  | none => false

/-- Why an identifier is not one of an expected namespace. -/
inductive SpaceError
  /-- It does not split into a namespace and a key. -/
  | malformed (id : String)
  /-- It belongs to another namespace. -/
  | mismatch (id expected found : String)
  deriving DecidableEq, Repr

/-- How the error is said. -/
def SpaceError.message : SpaceError → String
  | malformed id => "issue ID '" ++ id ++ "' is malformed: expected <prefix>-<key>"
  | mismatch id expected found =>
    "issue ID '" ++ id ++ "' does not match configured prefix '" ++ expected ++ "' (found '" ++
      found ++ "')"

/-- Accepts the identifiers that lie directly in the expected namespace. -/
def checkSpace (id expected : String) : Except SpaceError Unit :=
  match split id with
  | none => .error (.malformed id)
  | some (found, _) => if found = expected then .ok () else .error (.mismatch id expected found)

end IssueIntake.Identifier
