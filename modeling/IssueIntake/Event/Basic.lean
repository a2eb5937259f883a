import IssueIntake.Issue.Basic
/-!
# Events

What is recorded when an issue is taken in: who did it and when, and the issue as it was stored.
-/

namespace IssueIntake

/-- The identifier of an event: one that was given with it, or one drawn at random when it was
made. Of a random identifier nothing is kept but that it differs from every other; the outer layer
chooses its text. -/
inductive EventId
  | fresh
  | given (text : String)
  deriving DecidableEq, Repr

namespace EventId

/-- The text of an identifier, with a placeholder for a random one. -/
def text : EventId → String
  | fresh => "<uuid>"
  | given text => text

/-- Whether two events with these identifiers would clash. -/
def clashes : EventId → EventId → Bool
  | given a, given b => a == b
  | _, _ => false

end EventId

/-- What has happened. -/
inductive Action
  /-- An issue was taken in. -/
  | created (issue : Issue)
  deriving DecidableEq, Repr

namespace Action

/-- The name of what has happened. -/
def kind : Action → String
  | created _ => "created"

end Action

/-- An entry of the audit log. -/
structure Event where
  schema : String
  id : EventId
  issueId : String
  occurredAt : Instant
  actor : String
  comment : Option String
  action : Action
  deriving DecidableEq, Repr

namespace Event

/-- The form in which events are written. -/
def currentSchema : String := "issue.event.v1"

/-- The event of an issue that has just been stored. -/
def created (i : Issue) (actor : String) (now : Instant) : Event where
  schema := currentSchema
  id := .fresh
  issueId := i.id
  occurredAt := now
  actor := actor
  comment := some ("Created issue: " ++ i.title)
  action := .created i

/-- The name of what has happened. -/
def kind (e : Event) : String :=
  e.action.kind

end Event

end IssueIntake
