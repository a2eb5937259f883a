import IssueIntake.Store.Tables
/-!
# Overwriting cells

A text column of the rows of one issue can be overwritten past the store, as any program with
access to the database may do. The rules of the tables still hold: a row that would break one is
not changed. The identifier of an issue and that of a mark may be taken away.
-/

namespace IssueIntake

/-- A column of the table of events. -/
inductive EventColumn
  | id
  | issueId
  | kind
  | actor
  | comment
  | payload
  | createdAt
  deriving DecidableEq, Repr

/-- A column of the table of marks. -/
inductive MarkColumn
  | issueId
  | markedAt
  deriving DecidableEq, Repr

/-- A column of text in some table. -/
inductive Column
  | issue (field : Issue.Field)
  | event (column : EventColumn)
  | mark (column : MarkColumn)
  deriving DecidableEq, Repr

namespace Column

/-- The columns of the table of events by name. -/
def eventColumns : List (String × EventColumn) :=
  [("event_id", .id), ("issue_id", .issueId), ("event_type", .kind), ("actor", .actor),
   ("comment", .comment), ("new_value", .payload), ("created_at", .createdAt)]

/-- The columns of the table of marks by name. -/
def markColumns : List (String × MarkColumn) :=
  [("issue_id", .issueId), ("marked_at", .markedAt)]

/-- The column with a name in the table with a name. -/
def ofNames? (table column : String) : Option Column :=
  if table = "issues" then (Issue.Field.ofName? column).map issue
  else if table = "events" then ((eventColumns.find? (·.1 == column)).map (·.2)).map event
  else if table = "dirty_issues" then ((markColumns.find? (·.1 == column)).map (·.2)).map mark
  else none

end Column

/-- The value for a column that does not take an absent one. -/
def present (column : String) : Option String → Except DatabaseError String
  | some s => .ok s
  | none => .error (.notNull column)

/-- The row of an issue with another text in a column. Columns of numbers are left alone. -/
def IssueRow.withText (r : IssueRow) (f : Issue.Field) (value : Option String) :
    Except DatabaseError IssueRow := do
  let text := present ("issues." ++ f.name) value
  match f with
  | .closedAt => return { r with closedAt := value }
  | .deletedAt => return { r with deletedAt := value }
  | .externalRef => return { r with externalRef := value }
  | .metadata => return { r with metadata := value }
  | .priority | .ephemeral | .pinned =>
    let _ ← text
    return r
  | .id => return { r with id := ← text }
  | .contentHash => return { r with contentHash := ← text }
  | .title => return { r with title := ← text }
  | .description => return { r with description := ← text }
  | .design => return { r with design := ← text }
  | .acceptanceCriteria => return { r with acceptanceCriteria := ← text }
  | .notes => return { r with notes := ← text }
  | .status => return { r with status := ← text }
  | .issueType => return { r with issueType := ← text }
  | .assignee => return { r with assignee := ← text }
  | .owner => return { r with owner := ← text }
  | .createdBy => return { r with createdBy := ← text }
  | .createdAt => return { r with createdAt := ← text }
  | .updatedAt => return { r with updatedAt := ← text }
  | .closeReason => return { r with closeReason := ← text }
  | .deletedBy => return { r with deletedBy := ← text }
  | .deleteReason => return { r with deleteReason := ← text }

/-- The row of an event with another text in a column. -/
def EventRow.withText (r : EventRow) (c : EventColumn) (value : Option String) :
    Except DatabaseError EventRow := do
  match c with
  | .id => return { r with id := .given (← present "events.event_id" value) }
  | .issueId => return { r with issueId := ← present "events.issue_id" value }
  | .kind => return { r with kind := ← present "events.event_type" value }
  | .actor => return { r with actor := ← present "events.actor" value }
  | .comment => return { r with comment := value }
  | .payload => return { r with payload := ← present "events.new_value" value }
  | .createdAt => return { r with createdAt := ← present "events.created_at" value }

namespace Tables

/-- Whether an event or a mark refers to an issue. -/
def isReferenced (t : Tables) (id : String) : Bool :=
  t.events.any (·.issueId == id) || t.dirty.contains id

/-- Takes its identifier from the row of an issue, to which then nothing may refer. -/
def loseIssueId (t : Tables) (id : String) : Except DatabaseError (Nat × Tables) :=
  if t.isReferenced id then .error .foreignKey
  else
    .ok (1, { t with issues := t.issues.erase id, namelessIssues := t.namelessIssues + 1 })

/-- Overwrites a column in the row of an issue. -/
def overwriteIssue (t : Tables) (id : String) (f : Issue.Field) (value : Option String) :
    Except DatabaseError (Nat × Tables) :=
  match t.issues.get? id with
  | none => .ok (0, t)
  | some r => do
    if f = .id && value.isNone then return ← t.loseIssueId id
    let r ← r.withText f value
    if let some rule := r.brokenRule? then throw (.check rule)
    if r.id ≠ id then
      if t.issues.contains r.id then throw (.unique "issues.id")
      if t.isReferenced id then throw .foreignKey
    return (1, { t with issues := (t.issues.erase id).insert r.id r })

/-- Whether no two rows of events clash. -/
def areDistinct : List EventRow → Bool
  | [] => true
  | r :: rest => !rest.any (·.id.clashes r.id) && areDistinct rest

/-- Overwrites a column in the rows of an issue's events. -/
def overwriteEvents (t : Tables) (id : String) (c : EventColumn) (value : Option String) :
    Except DatabaseError (Nat × Tables) := do
  let events ← t.events.mapM fun r => if r.issueId = id then r.withText c value else pure r
  if !areDistinct events then throw (.unique "events.event_id")
  if !events.all (t.issues.contains ·.issueId) then throw .foreignKey
  return (t.events.countP (·.issueId == id), { t with events := events })

/-- Overwrites a column in the row of an issue's mark. -/
def overwriteMark (t : Tables) (id : String) (c : MarkColumn) (value : Option String) :
    Except DatabaseError (Nat × Tables) :=
  match t.dirty.get? id with
  | none => .ok (0, t)
  | some stamp => do
    match c with
    | .markedAt =>
      return (1, { t with dirty := t.dirty.insert id (← present "dirty_issues.marked_at" value) })
    | .issueId =>
      match value with
      | none =>
        return (1, { t with dirty := t.dirty.erase id, namelessMarks := t.namelessMarks + 1 })
      | some other =>
        if other ≠ id && t.dirty.contains other then throw (.unique "dirty_issues.issue_id")
        if !t.issues.contains other then throw .foreignKey
        return (1, { t with dirty := (t.dirty.erase id).insert other stamp })

/-- Overwrites a column in the rows of an issue; answers with the number of rows. -/
def overwrite (id : String) (column : Column) (value : Option String) :
    Call Tables DatabaseError Nat := fun t =>
  let changed :=
    match column with
    | .issue f => t.overwriteIssue id f value
    | .event c => t.overwriteEvents id c value
    | .mark c => t.overwriteMark id c value
  match changed with
  | .ok (count, t) => (.ok count, t)
  | .error e => (.error e, t)

end Tables

end IssueIntake
