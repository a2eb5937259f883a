import IssueIntake.Issue.Basic
import IssueIntake.Json.Kind
/-!
# The fields of an issue

The fields that are written and read, in the order in which they are written: the name of each,
its kind, its value in an issue, its default, and when it is left out. `ofGiven` is the way back
from the values of the fields to an issue.
-/

namespace IssueIntake.Issue

open Json (Kind ReadError)

/-- A field of an issue. -/
inductive Field
  | id
  | contentHash
  | title
  | description
  | design
  | acceptanceCriteria
  | notes
  | status
  | priority
  | issueType
  | assignee
  | owner
  | createdBy
  | createdAt
  | updatedAt
  | closedAt
  | closeReason
  | deletedAt
  | deletedBy
  | deleteReason
  | externalRef
  | ephemeral
  | pinned
  | metadata
  deriving DecidableEq, Repr

namespace Field

/-- All fields, in the order in which they are written. -/
def all : List Field :=
  [id, contentHash, title, description, design, acceptanceCriteria, notes, status, priority,
   issueType, assignee, owner, createdBy, createdAt, updatedAt, closedAt, closeReason, deletedAt,
   deletedBy, deleteReason, externalRef, ephemeral, pinned, metadata]

/-- The name under which a field is written. -/
def name : Field → String
  | id => "id"
  | contentHash => "content_hash"
  | title => "title"
  | description => "description"
  | design => "design"
  | acceptanceCriteria => "acceptance_criteria"
  | notes => "notes"
  | status => "status"
  | priority => "priority"
  | issueType => "issue_type"
  | assignee => "assignee"
  | owner => "owner"
  | createdBy => "created_by"
  | createdAt => "created_at"
  | updatedAt => "updated_at"
  | closedAt => "closed_at"
  | closeReason => "close_reason"
  | deletedAt => "deleted_at"
  | deletedBy => "deleted_by"
  | deleteReason => "delete_reason"
  | externalRef => "external_ref"
  | ephemeral => "ephemeral"
  | pinned => "pinned"
  | metadata => "metadata"

/-- What a field holds. -/
@[reducible] def kind : Field → Kind
  | priority => .int32
  | createdAt | updatedAt | closedAt | deletedAt => .optionalMoment
  | externalRef => .optionalText
  | ephemeral | pinned => .flag
  | metadata => .optionalAny
  | id | contentHash | title | description | design | acceptanceCriteria | notes | status
  | issueType | assignee | owner | createdBy | closeReason | deletedBy | deleteReason => .text

/-- The field with a name. -/
def ofName? (s : String) : Option Field :=
  Json.fieldNamed? all name s

/-- The value of a field that is not given. -/
def default : (f : Field) → f.kind.Value
  | status => "open"
  | priority => (2 : Int)
  | issueType => "task"
  | createdAt | updatedAt | closedAt | deletedAt => none
  | externalRef => none
  | ephemeral | pinned => false
  | metadata => none
  | id | contentHash | title | description | design | acceptanceCriteria | notes | assignee
  | owner | createdBy | closeReason | deletedBy | deleteReason => ""

/-- Whether a field is written even if it is empty. -/
def isAlways : Field → Bool
  | id | title | status | priority | issueType | ephemeral | pinned => true
  | _ => false

end Field

/-- The value of a field in an issue. -/
def get (i : Issue) : (f : Field) → f.kind.Value
  | .id => i.id
  | .contentHash => i.contentHash
  | .title => i.title
  | .description => i.description
  | .design => i.design
  | .acceptanceCriteria => i.acceptanceCriteria
  | .notes => i.notes
  | .status => i.status.name
  | .priority => i.priority
  | .issueType => i.issueType.name
  | .assignee => i.assignee
  | .owner => i.owner
  | .createdBy => i.createdBy
  | .createdAt => i.createdAt
  | .updatedAt => i.updatedAt
  | .closedAt => i.closedAt
  | .closeReason => i.closeReason
  | .deletedAt => i.deletedAt
  | .deletedBy => i.deletedBy
  | .deleteReason => i.deleteReason
  | .externalRef => i.externalRef
  | .ephemeral => i.ephemeral
  | .pinned => i.pinned
  | .metadata => i.metadata

/-- The values of some of the fields. -/
abbrev Given := Json.Given Field.kind

/-- The issue with the given fields, and defaults for the others. -/
def ofGiven (given : Given) : Issue :=
  let value (f : Field) : f.kind.Value := (given f).getD f.default
  { id := value .id
    contentHash := value .contentHash
    title := value .title
    description := value .description
    design := value .design
    acceptanceCriteria := value .acceptanceCriteria
    notes := value .notes
    status := .ofName (value .status)
    priority := value .priority
    issueType := .ofName (value .issueType)
    assignee := value .assignee
    owner := value .owner
    createdBy := value .createdBy
    createdAt := value .createdAt
    updatedAt := value .updatedAt
    closedAt := value .closedAt
    closeReason := value .closeReason
    deletedAt := value .deletedAt
    deletedBy := value .deletedBy
    deleteReason := value .deleteReason
    externalRef := value .externalRef
    ephemeral := value .ephemeral
    pinned := value .pinned
    metadata := value .metadata
    spaceToken := "" }

end IssueIntake.Issue
