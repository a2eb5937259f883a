import IssueIntake.Identifier.Basic
import IssueIntake.Ingest.Backend
import IssueIntake.Store.Keyed
import IssueIntake.Store.Row
/-!
# Tables

The tables of the durable store: rows of issues under their identifiers, rows of events in the
order in which they were written, marks and settings. A statement that breaks a rule of the tables
is refused and changes nothing. Rows of issues and marks can lose their identifiers, if they are
overwritten past the store; nothing refers to such rows any more, but they are still there.
-/

namespace IssueIntake

/-- The content of all tables. -/
structure Tables where
  issues : Keyed IssueRow
  events : List EventRow
  dirty : Keyed String
  config : Keyed String
  /-- How many rows of issues have no identifier. -/
  namelessIssues : Nat
  /-- How many marks have no identifier. -/
  namelessMarks : Nat
  deriving DecidableEq, Repr

namespace Tables

/-- Tables without rows. -/
def empty : Tables := ⟨.empty, [], .empty, .empty, 0, 0⟩

/-! ## Reading -/

/-- How many identifiers lie directly in a namespace and have no ordinals. The rows are first
narrowed to those whose identifier begins with the namespace and a dash, as far as the database
compares texts by length; then the identifiers are split. -/
def countTopLevel (t : Tables) (space : String) : Nat :=
  let length := (IssueRow.visible space).length + 1
  let begins (id : String) : Bool :=
    (IssueRow.visible id).take length == space.toList ++ ['-']
  (t.issues.keys.filter begins).countP (Identifier.isTopLevelIn space)

/-- How many rows of issues there are. -/
def issueCount (t : Tables) : Nat :=
  t.issues.size + t.namelessIssues

/-- The issue stored under an identifier. -/
def issue? (t : Tables) (id : String) : Except StoreError (Option Issue) :=
  match t.issues.get? id with
  | none => .ok none
  | some r => (r.decode.map some).mapError .database

/-- The events of an issue, in the order in which they were written. -/
def eventsOf (t : Tables) (id : String) : Except StoreError (List Event) :=
  ((t.events.filter (·.issueId == id)).mapM EventRow.decode).mapError .database

/-- The identifiers of the issues that are marked for the next export, ascending. Marks that have
none come first. -/
def markedIds (t : Tables) : Except StoreError (List String) :=
  if t.namelessMarks = 0 then .ok t.dirty.keys
  else .error (.database (.absentText 0 "issue_id"))

/-- When an issue was marked for the next export. -/
def markedAt (t : Tables) (id : String) : Except StoreError (Option Instant) :=
  (IssueRow.readOptionalStamp 0 (t.dirty.get? id)).mapError .database

/-! ## Writing -/

/-- With a setting. -/
def setConfig (t : Tables) (key value : String) : Tables :=
  { t with config := t.config.insert key value }

/-- With a list of names as a setting. -/
def setNames (t : Tables) (key : String) (names : List String) : Tables :=
  t.setConfig key (NameList.format names)

/-- Adds the row of an issue: it has to meet the table's rules, then its identifier has to be
new. -/
def insert (i : Issue) : Call Tables StoreError Unit := fun t =>
  let r := IssueRow.encode i
  match r.brokenRule? with
  | some rule => (.error (.database (.check rule)), t)
  | none =>
    if t.issues.contains i.id then (.error (.alreadyExists i.id), t)
    else (.ok (), { t with issues := t.issues.insert i.id r })

/-- Adds the row of an event: its identifier has to be new, then its issue has to be there. -/
def recordEvent (e : Event) : Call Tables StoreError Unit := fun t =>
  if t.events.any (·.id.clashes e.id) then (.error (.database (.unique "events.event_id")), t)
  else if t.issues.contains e.issueId then
    (.ok (), { t with events := t.events ++ [EventRow.encode e] })
  else (.error (.notFound e.issueId), t)

/-- Sets the mark of an issue, which has to be there. -/
def markDirty (id : String) (now : Instant) : Call Tables StoreError Unit := fun t =>
  if t.issues.contains id then
    (.ok (), { t with dirty := t.dirty.insert id (now.text .stored) })
  else (.error (.notFound id), t)

/-- The calls of the durable store inside a transaction. -/
def backend : Backend Tables StoreError where
  configValue key := .look (·.config.get? key)
  issueExists id := .look (·.issues.contains id)
  countTopLevel space := .look (·.countTopLevel space)
  insert := insert
  recordEvent := recordEvent
  markDirty := markDirty

end Tables

end IssueIntake
