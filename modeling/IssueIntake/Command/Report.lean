import IssueIntake.Event.Json
import IssueIntake.Ingest.Create
import IssueIntake.Issue.Vocabulary
/-!
# Reports

What a command has done, and the two ways of saying it: lines of text, and an object in JSON.
-/

namespace IssueIntake.Command

/-- What a command has done or found. -/
inductive Report
  | initialized (db space : String)
  | vocabulary (custom : Vocabulary)
  | created (actor : String) (mode : Mode) (issue : Issue)
  | imported (source : String) (mode : Mode) (ids : List String)
  | found (issue : Issue)
  | pending (ids : List String)
  | history (id : String) (events : List Event)
  deriving DecidableEq, Repr

/-- The name by which a mode is reported. -/
def modeName : Mode → String
  | .strict => "strict"
  | .trusted => "trusted"

namespace Report

/-! ## Text -/

/-- An instant under a label, if it is there. -/
def stampLine (label : String) (t : Option Instant) : List String :=
  (t.map fun t => "  " ++ label ++ ": " ++ t.text .shown).toList

/-- Identifiers, one a line. -/
def idLines (ids : List String) : List String :=
  ids.map ("  - " ++ ·)

/-- An event in one line. -/
def eventLine (e : Event) : String :=
  "  - " ++ e.occurredAt.text .shown ++ " " ++ e.kind ++ " by " ++ e.actor ++ ": " ++
    e.comment.getD ""

/-- All that is shown of an issue. -/
def issueLines (i : Issue) : List String :=
  [i.id ++ ": " ++ i.title,
   "  Status: " ++ i.status.name ++ "  Priority: " ++ toString i.priority ++ "  Type: " ++
     i.issueType.name] ++
  (if i.assignee.isEmpty then [] else ["  Assignee: " ++ i.assignee]) ++
  stampLine "Created" i.createdAt ++ stampLine "Updated" i.updatedAt ++
  stampLine "Closed" i.closedAt ++ stampLine "Deleted" i.deletedAt ++
  ["  Content hash: " ++ i.contentHash] ++
  (if i.description.isEmpty then [] else ["", i.description])

/-- The lines of a report. -/
def lines : Report → List String
  | initialized db space => ["quarry init", "  Prefix: " ++ space, "  Database: " ++ db]
  | vocabulary v =>
    ["quarry vocab", "  Statuses: " ++ ", ".intercalate v.statusNames,
     "  Types: " ++ ", ".intercalate v.typeNames]
  | created _ _ i =>
    ["quarry create", "  Created: " ++ i.id ++ " [" ++ i.status.name ++ "]",
     "  Title: " ++ i.title]
  | imported source mode ids =>
    ["quarry import", "  Imported: " ++ toString ids.length, "  Source: " ++ source,
     "  Mode: " ++ modeName mode] ++ idLines ids
  | found i => issueLines i
  | pending ids => ["quarry dirty", "  Pending export: " ++ toString ids.length] ++ idLines ids
  | history id events =>
    ["quarry events " ++ id, "  Events: " ++ toString events.length] ++ events.map eventLine

/-! ## JSON -/

/-- A list of names. -/
def names (l : List String) : Json :=
  .array (l.map .string)

/-- A count. -/
def count (n : Nat) : Json :=
  .number (.whole n)

/-- An instant; `null` if it is not there. -/
def stampJson (t : Option Instant) : Json :=
  match t with
  | some t => .string (t.text .shown)
  | none => .null

/-- What is said of an issue that has been taken in. -/
def summary (i : Issue) : Json :=
  .object
    [("id", .string i.id),
     ("title", .string i.title),
     ("status", .string i.status.name),
     ("priority", .number (.whole i.priority)),
     ("issueType", .string i.issueType.name),
     ("assignee", .string i.assignee),
     ("contentHash", .string i.contentHash),
     ("createdAt", stampJson i.createdAt),
     ("updatedAt", stampJson i.updatedAt),
     ("closedAt", stampJson i.closedAt),
     ("deletedAt", stampJson i.deletedAt)]

/-- What is said of an event. -/
def eventJson (e : Event) : Json :=
  .object
    [("eventId", .string e.id.text),
     ("kind", .string e.kind),
     ("actor", .string e.actor),
     ("comment", (e.comment.map Json.string).getD .null),
     ("occurredAt", .string (e.occurredAt.text .shown))]

/-- The command that a report is about. -/
def action : Report → String
  | initialized .. => "init"
  | vocabulary _ => "vocab"
  | created .. => "create"
  | imported .. => "import"
  | found _ => "show"
  | pending _ => "dirty"
  | history .. => "events"

/-- The members of a report besides the name of its command. -/
def members : Report → List (String × Json)
  | initialized db space => [("dbPath", .string db), ("issuePrefix", .string space)]
  | vocabulary v =>
    [("customStatuses", names v.statuses), ("customTypes", names v.types),
     ("statuses", names v.statusNames), ("types", names v.typeNames)]
  | created actor mode i =>
    [("mode", .string (modeName mode)), ("actor", .string actor), ("issue", summary i)]
  | imported source mode ids =>
    [("source", .string source), ("mode", .string (modeName mode)), ("count", count ids.length),
     ("ids", names ids)]
  | found i => [("issue", i.toJson)]
  | pending ids => [("count", count ids.length), ("ids", names ids)]
  | history id events =>
    [("issueId", .string id), ("count", count events.length),
     ("events", .array (events.map eventJson))]

/-- A report in JSON, with all keys in ascending order. -/
def toJson (r : Report) : Json :=
  (Json.object (("action", .string r.action) :: r.members)).normalize

/-- What is printed. -/
def text (asJson : Bool) (r : Report) : String :=
  if asJson then r.toJson.lines ++ "\n" else String.join (r.lines.map (· ++ "\n"))

end Report

end IssueIntake.Command
