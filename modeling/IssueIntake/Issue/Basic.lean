import IssueIntake.Issue.Status
import IssueIntake.Calendar.Instant
import IssueIntake.Json.Value
/-!
# Issues

The unit of work that a store takes in. A draft may leave its identifier, its fingerprint and its
timestamps out; they are filled in when it is taken in.
-/

namespace IssueIntake

/-- An issue. -/
structure Issue where
  id : String
  /-- The fingerprint of the fields that carry meaning. -/
  contentHash : String
  title : String
  description : String
  design : String
  acceptanceCriteria : String
  notes : String
  status : Status
  priority : Int
  issueType : IssueType
  assignee : String
  owner : String
  createdBy : String
  createdAt : Option Instant
  updatedAt : Option Instant
  closedAt : Option Instant
  closeReason : String
  deletedAt : Option Instant
  deletedBy : String
  deleteReason : String
  externalRef : Option String
  ephemeral : Bool
  pinned : Bool
  metadata : Option Json
  /-- The token of the namespace below the configured one in which the issue gets its identifier.
  It is never stored and never written. -/
  spaceToken : String
  deriving DecidableEq, Repr

namespace Issue

/-- A minimal open task. -/
def new (id title : String) : Issue where
  id := id
  contentHash := ""
  title := title
  description := ""
  design := ""
  acceptanceCriteria := ""
  notes := ""
  status := .open
  priority := 2
  issueType := .task
  assignee := ""
  owner := ""
  createdBy := ""
  createdAt := none
  updatedAt := none
  closedAt := none
  closeReason := ""
  deletedAt := none
  deletedBy := ""
  deleteReason := ""
  externalRef := none
  ephemeral := false
  pinned := false
  metadata := none
  spaceToken := ""

end Issue

end IssueIntake
