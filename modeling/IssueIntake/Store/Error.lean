import IssueIntake.Json.Error
import IssueIntake.Source.Error
/-!
# Faults of the database

What the database refuses, and what the store on top of it refuses.
-/

namespace IssueIntake

/-- A rule that every row of the table of issues meets. -/
inductive RowRule
  | titleLength
  | priorityRange
  | closing
  deriving DecidableEq, Repr

/-- A rule as the table's definition writes it. -/
def RowRule.text : RowRule → String
  | titleLength => "length(title) BETWEEN 1 AND 500"
  | priorityRange => "priority BETWEEN 0 AND 4"
  | closing =>
    "(status = 'closed' AND closed_at IS NOT NULL) OR\n            (status = 'tombstone') OR\n" ++
      "            (status NOT IN ('closed', 'tombstone') AND closed_at IS NULL)"

/-- Why the database refuses a statement. -/
inductive DatabaseError
  | check (rule : RowRule)
  | notNull (column : String)
  | unique (column : String)
  | foreignKey
  /-- The text in the column at a position of a row cannot be read. -/
  | conversion (position : Nat) (cause : Json.ReadError)
  /-- The text that a row must have at a position is absent. -/
  | absentText (position : Nat) (column : String)
  | cannotOpen (path : String)
  /-- A file that the database needs beside its own cannot be opened. -/
  | cannotOpenBeside
  /-- A path that cannot be passed on, with a zero byte after so many others. -/
  | nulInPath (position : Nat)
  | notDatabase
  /-- A file system that is asked for does not exist. -/
  | noSuchSystem (name : String)
  /-- A way of some kind to open a database is asked for that does not exist. -/
  | noSuchMode (kind name : String)
  /-- More is asked for than was allowed before. -/
  | modeNotAllowed (name : String)
  /-- The database is asked of another machine. -/
  | foreignAuthority (authority : String)
  | readOnly
  | diskFault
  | interrupted
  deriving DecidableEq, Repr

/-- How the database says it. -/
def DatabaseError.message : DatabaseError → String
  | check rule => "CHECK constraint failed: " ++ rule.text
  | notNull column => "NOT NULL constraint failed: " ++ column
  | unique column => "UNIQUE constraint failed: " ++ column
  | foreignKey => "FOREIGN KEY constraint failed"
  | conversion position cause =>
    "Conversion error from type Text at index: " ++ toString position ++ ", " ++ cause.message
  | absentText position column =>
    "Invalid column type Null at index: " ++ toString position ++ ", name: " ++ column
  | cannotOpen path => "unable to open database file: " ++ path
  | cannotOpenBeside => "unable to open database file"
  | nulInPath position => "nul byte found in provided data at position: " ++ toString position
  | notDatabase => "file is not a database"
  | noSuchSystem name => "no such vfs: " ++ name
  | noSuchMode kind name => "no such " ++ kind ++ " mode: " ++ name
  | modeNotAllowed name => "access mode not allowed: " ++ name
  | foreignAuthority authority => "invalid uri authority: " ++ authority
  | readOnly => "attempt to write a readonly database"
  | diskFault => "disk I/O error"
  | interrupted => "interrupted"

/-- Why the store refuses a call. -/
inductive StoreError
  | database (cause : DatabaseError)
  | alreadyExists (id : String)
  | notFound (id : String)
  | invalidSpace (space : String)
  | createDirectory (path : String) (cause : FileError)
  deriving DecidableEq, Repr

/-- How a refusal is said. -/
def StoreError.message : StoreError → String
  | database cause => "sqlite error: " ++ cause.message
  | alreadyExists id => "issue already exists: " ++ id
  | notFound id => "issue not found: " ++ id
  | invalidSpace space =>
    "invalid issue prefix '" ++ space ++ "': must be non-empty and must not end with '-'"
  | createDirectory path cause =>
    "failed to create database directory " ++ path ++ ": " ++ cause.message

end IssueIntake
