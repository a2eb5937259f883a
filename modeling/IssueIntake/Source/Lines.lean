import IssueIntake.Issue.Json
import IssueIntake.Source.Error
import IssueIntake.Text.Blank
import IssueIntake.Text.Bytes
import IssueIntake.Text.Pieces
/-!
# Issues line by line

An import source holds one issue a line. Lines end in a line feed; blanks around a line are
dropped, and lines that are blank or begin with `#` are passed over. Lines are counted from one,
those that are passed over included.
-/

namespace IssueIntake.Source

open Text

/-- The lines of a source, without their line feeds. What follows the last line feed is a line
only if there is something. -/
def linesOf (bytes : List UInt8) : List (List UInt8) :=
  let ps := pieces 10 bytes
  if ps.getLast? = some [] then ps.dropLast else ps

/-- The text that bytes spell in UTF-8. -/
def decode? (bytes : List UInt8) : Option (List Char) :=
  (ofUtf8? bytes).map String.toList

/-- Whether a trimmed line holds no issue. -/
def isPassedOver : List Char → Bool
  | [] => true
  | c :: _ => c = '#'

/-- The issue on a line, if it holds one. -/
def readLine (number : Nat) (bytes : List UInt8) : Except SourceError (Option Issue) :=
  match decode? bytes with
  | none => .error (.notText number)
  | some cs =>
    let line := trimList cs
    if isPassedOver line then .ok none
    else
      match Issue.read line with
      | .ok i => .ok (some i)
      | .error e => .error (.malformed number e)

/-- The issues on lines that are numbered from `number` on, in order after those found before,
which are in reverse. -/
def readLines : Nat → List Issue → List (List UInt8) → Except SourceError (List Issue)
  | _, before, [] => .ok before.reverse
  | number, before, line :: rest =>
    match readLine number line with
    | .error e => .error e
    | .ok none => readLines (number + 1) before rest
    | .ok (some i) => readLines (number + 1) (i :: before) rest

/-- The issues in a stream of bytes. -/
def readIssues (bytes : List UInt8) : Except SourceError (List Issue) :=
  readLines 1 [] (linesOf bytes)

/-- The issues in the file at a path, of which the content is given. A file is checked as a whole
before its lines are read. -/
def readPath (path : String) (content : Except FileError (List UInt8)) :
    Except SourceError (List Issue) :=
  match content with
  | .error cause => .error (.unreadable path cause)
  | .ok bytes =>
    if bytes.contains 0 then .error (.holdsNul path)
    else if (decode? bytes).isNone then .error (.notUtf8 path)
    else readIssues bytes

end IssueIntake.Source
