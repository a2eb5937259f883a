import IssueIntake.Json.Printer
import IssueIntake.Json.Reader
import IssueIntake.Store.Tables
/-!
# Tables in a file

A database is kept in a file as a mark and then all tables in JSON. The mark holds a zero byte, so
the file is never taken for a source of issues.
-/

namespace IssueIntake

namespace Snapshot

/-! ## Cells -/

/-- A text that may be absent. -/
def optionalText (s : Option String) : Json :=
  match s with
  | some s => .string s
  | none => .null

/-- The text in a column of a row. -/
def text? (row : Json) (column : String) : Option String :=
  match row.member? column with
  | some (.string s) => some s
  | _ => none

/-- The text in a column of a row that may be without. -/
def optionalText? (row : Json) (column : String) : Option (Option String) :=
  match row.member? column with
  | some (.string s) => some (some s)
  | some .null => some none
  | _ => none

/-- The whole number in a column of a row. -/
def whole? (row : Json) (column : String) : Option Int :=
  match row.member? column with
  | some (.number (.whole n)) => some n
  | _ => none

/-- The truth value in a column of a row. -/
def flag? (row : Json) (column : String) : Option Bool :=
  match row.member? column with
  | some (.bool b) => some b
  | _ => none

/-! ## Rows -/

/-- The row of an issue by the names of its columns. -/
def ofIssueRow (r : IssueRow) : Json :=
  .object
    [("id", .string r.id),
     ("content_hash", .string r.contentHash),
     ("title", .string r.title),
     ("description", .string r.description),
     ("design", .string r.design),
     ("acceptance_criteria", .string r.acceptanceCriteria),
     ("notes", .string r.notes),
     ("status", .string r.status),
     ("priority", .number (.whole r.priority)),
     ("issue_type", .string r.issueType),
     ("assignee", .string r.assignee),
     ("owner", .string r.owner),
     ("created_by", .string r.createdBy),
     ("created_at", .string r.createdAt),
     ("updated_at", .string r.updatedAt),
     ("closed_at", optionalText r.closedAt),
     ("close_reason", .string r.closeReason),
     ("deleted_at", optionalText r.deletedAt),
     ("deleted_by", .string r.deletedBy),
     ("delete_reason", .string r.deleteReason),
     ("external_ref", optionalText r.externalRef),
     ("ephemeral", .bool r.ephemeral),
     ("pinned", .bool r.pinned),
     ("metadata", optionalText r.metadata)]

/-- The row of an issue that a value stands for. -/
def issueRow? (j : Json) : Option IssueRow := do
  return {
    id := ← text? j "id"
    contentHash := ← text? j "content_hash"
    title := ← text? j "title"
    description := ← text? j "description"
    design := ← text? j "design"
    acceptanceCriteria := ← text? j "acceptance_criteria"
    notes := ← text? j "notes"
    status := ← text? j "status"
    priority := ← whole? j "priority"
    issueType := ← text? j "issue_type"
    assignee := ← text? j "assignee"
    owner := ← text? j "owner"
    createdBy := ← text? j "created_by"
    createdAt := ← text? j "created_at"
    updatedAt := ← text? j "updated_at"
    closedAt := ← optionalText? j "closed_at"
    closeReason := ← text? j "close_reason"
    deletedAt := ← optionalText? j "deleted_at"
    deletedBy := ← text? j "deleted_by"
    deleteReason := ← text? j "delete_reason"
    externalRef := ← optionalText? j "external_ref"
    ephemeral := ← flag? j "ephemeral"
    pinned := ← flag? j "pinned"
    metadata := ← optionalText? j "metadata" }

/-- The row of an event by the names of its columns. -/
def ofEventRow (r : EventRow) : Json :=
  .object
    [("event_id", .string r.id.text),
     ("issue_id", .string r.issueId),
     ("event_type", .string r.kind),
     ("actor", .string r.actor),
     ("comment", optionalText r.comment),
     ("new_value", .string r.payload),
     ("created_at", .string r.createdAt)]

/-- The row of an event that a value stands for. -/
def eventRow? (j : Json) : Option EventRow := do
  return {
    id := .given (← text? j "event_id")
    issueId := ← text? j "issue_id"
    kind := ← text? j "event_type"
    actor := ← text? j "actor"
    comment := ← optionalText? j "comment"
    payload := ← text? j "new_value"
    createdAt := ← text? j "created_at" }

/-! ## Tables -/

/-- Values under keys, as a list of pairs. -/
def ofKeyed (c : Keyed String) : Json :=
  .array (c.entries.map fun (key, value) => .array [.string key, .string value])

/-- A key and its value. -/
def pair? : Json → Option (String × String)
  | .array [.string key, .string value] => some (key, value)
  | _ => none

/-- The items of an array under a name. -/
def items? (j : Json) (name : String) : Option (List Json) :=
  match j.member? name with
  | some (.array items) => some items
  | _ => none

/-- All tables. -/
def ofTables (t : Tables) : Json :=
  .object
    [("config", ofKeyed t.config),
     ("issues", .array (t.issues.values.map ofIssueRow)),
     ("events", .array (t.events.map ofEventRow)),
     ("dirty", ofKeyed t.dirty),
     ("nameless_issues", .number (.whole t.namelessIssues)),
     ("nameless_marks", .number (.whole t.namelessMarks))]

/-- The tables that a value stands for. -/
def tables? (j : Json) : Option Tables := do
  let config ← (← items? j "config").mapM pair?
  let issues ← (← items? j "issues").mapM issueRow?
  let events ← (← items? j "events").mapM eventRow?
  let dirty ← (← items? j "dirty").mapM pair?
  return {
    config := .ofList config
    issues := .ofList (issues.map fun r => (r.id, r))
    events := events
    dirty := .ofList dirty
    namelessIssues := (← whole? j "nameless_issues").toNat
    namelessMarks := (← whole? j "nameless_marks").toNat }

/-! ## Files -/

/-- What the file of a database begins with. -/
def mark : String := "issue tables\x00\n"

/-- The file of a database. -/
def write (t : Tables) : String :=
  mark ++ (ofTables t).text ++ "\n"

/-- The database in a file, if it is the file of one. -/
def read? (content : String) : Option Tables :=
  if content.startsWith mark then
    match Json.readAll (Json.readValue Json.maxLevels) (content.toList.drop mark.length) with
    | .ok j => tables? j
    | .error _ => none
  else none

end Snapshot

namespace Tables

/-- How many events have identifiers that are still to be written out. -/
def freshEvents (t : Tables) : Nat :=
  t.events.countP (·.id == .fresh)

/-- Gives rows of events that have none an identifier, in order, as long as there are some. -/
def nameRows : List EventId → List EventRow → List EventRow
  | id :: ids, r :: rest =>
    if r.id = .fresh then { r with id := id } :: nameRows ids rest
    else r :: nameRows (id :: ids) rest
  | _, rows => rows

/-- The tables with identifiers for the events that have none. -/
def nameEvents (t : Tables) (ids : List EventId) : Tables :=
  { t with events := nameRows ids t.events }

end Tables

end IssueIntake
