import IssueIntake.Issue.Basic
import IssueIntake.Issue.Vocabulary
import IssueIntake.Calendar.Printer
/-!
# Validation

The rules that an issue has to meet before it is stored, checked in a fixed order so that the
first broken rule is the one reported.
-/

namespace IssueIntake.Issue

/-- A timestamp of an issue. -/
inductive Stamp
  | createdAt
  | updatedAt
  | closedAt
  | deletedAt
  deriving DecidableEq, Repr

/-- The name of the field that holds a timestamp. -/
def Stamp.name : Stamp → String
  | createdAt => "created_at"
  | updatedAt => "updated_at"
  | closedAt => "closed_at"
  | deletedAt => "deleted_at"

/-- The value of a timestamp, if the issue has it. -/
def stamp? (i : Issue) : Stamp → Option Instant
  | .createdAt => i.createdAt
  | .updatedAt => i.updatedAt
  | .closedAt => i.closedAt
  | .deletedAt => i.deletedAt

/-- A broken rule. -/
inductive Violation
  | titleRequired
  | titleTooLong (length : Nat)
  | priorityOutOfRange (priority : Int)
  | unknownStatus (name : String)
  | unknownType (name : String)
  | closedWithoutClosedAt
  | closedAtOnOpenIssue (status : String)
  | tombstoneWithoutDeletedAt
  | deletedAtOnLiveIssue (status : String)
  | timestampOutOfRange (stamp : Stamp) (value : Instant)
  deriving DecidableEq, Repr

/-- How a broken rule is said. -/
def Violation.message : Violation → String
  | titleRequired => "title is required"
  | titleTooLong n => "title must be 500 characters or less (got " ++ toString n ++ ")"
  | priorityOutOfRange n => "priority must be between 0 and 4 (got " ++ toString n ++ ")"
  | unknownStatus name => "invalid status: " ++ name
  | unknownType name => "invalid issue_type: " ++ name
  | closedWithoutClosedAt => "closed issues must have closed_at timestamp"
  | closedAtOnOpenIssue status =>
    "non-closed issues cannot have closed_at timestamp (status: " ++ status ++ ")"
  | tombstoneWithoutDeletedAt => "tombstone issues must have deleted_at timestamp"
  | deletedAtOnLiveIssue status =>
    "non-tombstone issues cannot have deleted_at timestamp (status: " ++ status ++ ")"
  | timestampOutOfRange stamp value =>
    stamp.name ++ " must fall within years 0000-9999 (got " ++ value.text .shown ++ ")"

/-- A rule: passes, or names what is broken. -/
def require (ok : Bool) (violation : Violation) : Except Violation Unit :=
  if ok then .ok () else .error violation

/-- Whether the stored form of instants can spell the year. -/
def isStorable (t : Instant) : Bool :=
  0 ≤ t.date.year && t.date.year ≤ 9999

/-- A timestamp that is present lies in the years 0 to 9999. -/
def checkStamp (i : Issue) (s : Stamp) : Except Violation Unit :=
  match i.stamp? s with
  | some t => require (isStorable t) (.timestampOutOfRange s t)
  | none => .ok ()

/-- Closed issues have the time of closing, tombstones may have it, others do not. -/
def checkClosing (i : Issue) : Except Violation Unit :=
  match i.status, i.closedAt with
  | .closed, none => .error .closedWithoutClosedAt
  | .closed, some _ | .tombstone, _ | _, none => .ok ()
  | status, some _ => .error (.closedAtOnOpenIssue status.name)

/-- Tombstones have the time of deletion, others do not. -/
def checkDeletion (i : Issue) : Except Violation Unit :=
  match i.status, i.deletedAt with
  | .tombstone, none => .error .tombstoneWithoutDeletedAt
  | .tombstone, some _ | _, none => .ok ()
  | status, some _ => .error (.deletedAtOnLiveIssue status.name)

/-- All rules, in the order in which they are checked. -/
def validate (i : Issue) (v : Vocabulary) : Except Violation Unit := do
  require (i.title.length != 0) .titleRequired
  require (i.title.length ≤ 500) (.titleTooLong i.title.length)
  require (0 ≤ i.priority && i.priority ≤ 4) (.priorityOutOfRange i.priority)
  require (v.allowsStatus i.status) (.unknownStatus i.status.name)
  require (v.allowsType i.issueType) (.unknownType i.issueType.name)
  i.checkStamp .createdAt
  i.checkStamp .updatedAt
  i.checkStamp .closedAt
  i.checkStamp .deletedAt
  i.checkClosing
  i.checkDeletion

end IssueIntake.Issue
