import IssueIntake.Calendar.Strict
import IssueIntake.Event.Json
import IssueIntake.Store.Error
/-!
# Rows

How issues and events are kept in tables of text: instants in their stored form, metadata and the
payload of an event as JSON. Reading a row can fail, since a table may hold any text; what has been
written by `encode` is what `decode` is made to read.
-/

namespace IssueIntake

/-- A row of the table of issues. -/
structure IssueRow where
  id : String
  contentHash : String
  title : String
  description : String
  design : String
  acceptanceCriteria : String
  notes : String
  status : String
  priority : Int
  issueType : String
  assignee : String
  owner : String
  createdBy : String
  createdAt : String
  updatedAt : String
  closedAt : Option String
  closeReason : String
  deletedAt : Option String
  deletedBy : String
  deleteReason : String
  externalRef : Option String
  ephemeral : Bool
  pinned : Bool
  metadata : Option String
  deriving DecidableEq, Repr

/-- A row of the table of events. -/
structure EventRow where
  id : EventId
  issueId : String
  kind : String
  actor : String
  comment : Option String
  payload : String
  createdAt : String
  deriving DecidableEq, Repr

namespace IssueRow

/-- An instant as it is kept; an absent one in a column that needs a value is the empty text. -/
def stampText (t : Option Instant) : String :=
  match t with
  | some t => t.text .stored
  | none => ""

/-- The row of an issue. -/
def encode (i : Issue) : IssueRow where
  id := i.id
  contentHash := i.contentHash
  title := i.title
  description := i.description
  design := i.design
  acceptanceCriteria := i.acceptanceCriteria
  notes := i.notes
  status := i.status.name
  priority := i.priority
  issueType := i.issueType.name
  assignee := i.assignee
  owner := i.owner
  createdBy := i.createdBy
  createdAt := stampText i.createdAt
  updatedAt := stampText i.updatedAt
  closedAt := i.closedAt.map (·.text .stored)
  closeReason := i.closeReason
  deletedAt := i.deletedAt.map (·.text .stored)
  deletedBy := i.deletedBy
  deleteReason := i.deleteReason
  externalRef := i.externalRef
  ephemeral := i.ephemeral
  pinned := i.pinned
  metadata := i.metadata.map Json.text

/-- The instant in the column at a position. -/
def readStamp (position : Nat) (s : String) : Except DatabaseError Instant :=
  match Instant.parseStrict s with
  | .ok t => .ok t
  | .error e => .error (.conversion position (.instant e))

/-- The instant in a column that may be empty. -/
def readOptionalStamp (position : Nat) : Option String → Except DatabaseError (Option Instant)
  | none => .ok none
  | some s => (readStamp position s).map some

/-- The metadata in the column at a position. -/
def readMetadata (position : Nat) : Option String → Except DatabaseError (Option Json)
  | none => .ok none
  | some s =>
    match Json.readAll (Json.readValue Json.maxLevels) s.toList with
    | .ok v => .ok (some v.normalize)
    | .error e => .error (.conversion position e)

/-- The issue in a row. The metadata is read first, then the timestamps in the order of their
columns. -/
def decode (r : IssueRow) : Except DatabaseError Issue := do
  let metadata ← readMetadata 23 r.metadata
  let createdAt ← readStamp 13 r.createdAt
  let updatedAt ← readStamp 14 r.updatedAt
  let closedAt ← readOptionalStamp 15 r.closedAt
  let deletedAt ← readOptionalStamp 17 r.deletedAt
  return {
    id := r.id
    contentHash := r.contentHash
    title := r.title
    description := r.description
    design := r.design
    acceptanceCriteria := r.acceptanceCriteria
    notes := r.notes
    status := .ofName r.status
    priority := r.priority
    issueType := .ofName r.issueType
    assignee := r.assignee
    owner := r.owner
    createdBy := r.createdBy
    createdAt := some createdAt
    updatedAt := some updatedAt
    closedAt := closedAt
    closeReason := r.closeReason
    deletedAt := deletedAt
    deletedBy := r.deletedBy
    deleteReason := r.deleteReason
    externalRef := r.externalRef
    ephemeral := r.ephemeral
    pinned := r.pinned
    metadata := metadata
    spaceToken := "" }

/-! ## The rules of the table -/

/-- The part of a text that the database measures and compares by length: up to the first
U+0000. -/
def visible (s : String) : List Char :=
  s.toList.takeWhile (· != '\x00')

/-- Whether a row meets a rule. -/
def meets (r : IssueRow) : RowRule → Bool
  | .titleLength => 1 ≤ (visible r.title).length && (visible r.title).length ≤ 500
  | .priorityRange => 0 ≤ r.priority && r.priority ≤ 4
  | .closing =>
    (r.status == "closed" && r.closedAt.isSome) || r.status == "tombstone" ||
      (r.status != "closed" && r.status != "tombstone" && r.closedAt.isNone)

/-- The first rule that a row breaks. -/
def brokenRule? (r : IssueRow) : Option RowRule :=
  [RowRule.titleLength, .priorityRange, .closing].find? (!r.meets ·)

end IssueRow

namespace EventRow

/-- The row of an event. -/
def encode (e : Event) : EventRow where
  id := e.id
  issueId := e.issueId
  kind := e.kind
  actor := e.actor
  comment := e.comment
  payload := e.action.payload
  createdAt := e.occurredAt.text .stored

/-- What happened, according to a payload in the column at a position. -/
def readPayload (position : Nat) (s : String) : Except DatabaseError Action :=
  match Action.parse s with
  | .ok a => .ok a
  | .error e => .error (.conversion position e)

/-- The event in a row. Its kind is the one that the payload names. -/
def decode (r : EventRow) : Except DatabaseError Event := do
  let action ← readPayload 4 r.payload
  let occurredAt ← IssueRow.readStamp 5 r.createdAt
  return {
    schema := Event.currentSchema
    id := r.id
    issueId := r.issueId
    occurredAt := occurredAt
    actor := r.actor
    comment := r.comment
    action := action }

end EventRow

end IssueIntake
