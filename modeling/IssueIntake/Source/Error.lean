import IssueIntake.Json.Error
/-!
# Faults of an import source

Why a file cannot be used, and why the issues in a source cannot be read.
-/

namespace IssueIntake

/-- Why the system refuses a path. -/
inductive FileError
  | notFound
  | alreadyExists
  | notDirectory
  | isDirectory
  | nameTooLong
  /-- The path holds a zero byte. -/
  | holdsNul
  deriving DecidableEq, Repr

/-- How the system says it. -/
def FileError.message : FileError → String
  | notFound => "No such file or directory (os error 2)"
  | alreadyExists => "File exists (os error 17)"
  | notDirectory => "Not a directory (os error 20)"
  | isDirectory => "Is a directory (os error 21)"
  | nameTooLong => "File name too long (os error 36)"
  | holdsNul => "file name contained an unexpected NUL byte"

/-- Why the issues in a source cannot be read. -/
inductive SourceError
  /-- The file cannot be read at all. -/
  | unreadable (path : String) (cause : FileError)
  /-- A line is not UTF-8. -/
  | notText (line : Nat)
  /-- A line is not an issue. -/
  | malformed (line : Nat) (cause : Json.ReadError)
  /-- The file holds a zero byte. -/
  | holdsNul (path : String)
  /-- The file is not UTF-8. -/
  | notUtf8 (path : String)
  deriving DecidableEq, Repr

/-- How a fault is said, without the place in the line that the fault of an issue has
(`Json.ReadError.message`). -/
def SourceError.message : SourceError → String
  | unreadable path cause => "line 0: I/O error: " ++ path ++ ": " ++ cause.message
  | notText line => "line " ++ toString line ++ ": I/O error: stream did not contain valid UTF-8"
  | malformed line cause => "line " ++ toString line ++ ": parse error: " ++ cause.message
  | holdsNul path => "corrupted source: " ++ path ++ ": contains NUL byte(s)"
  | notUtf8 path => "corrupted source: " ++ path ++ ": contains non-UTF-8 byte sequence(s)"

/-- The line that is at fault, counted from one; zero stands for the whole file. -/
def SourceError.line? : SourceError → Option Nat
  | unreadable .. => some 0
  | notText line => some line
  | malformed line _ => some line
  | holdsNul _ | notUtf8 _ => none

end IssueIntake
