/-!
# Statuses and types of issues

Some names are built in; every other name is carried as it is, and the vocabulary of a store says
whether it is accepted there.
-/

namespace IssueIntake

/-- How far the work on an issue has come. -/
inductive Status
  | open
  | inProgress
  | blocked
  | deferred
  | closed
  | tombstone
  | pinned
  | custom (name : String)
  deriving DecidableEq, Repr

namespace Status

/-- The built-in statuses, in the order in which they are listed. -/
def builtin : List Status :=
  [.open, .inProgress, .blocked, .deferred, .closed, .tombstone, .pinned]

/-- The name of a status. -/
def name : Status → String
  | .open => "open"
  | inProgress => "in_progress"
  | blocked => "blocked"
  | deferred => "deferred"
  | closed => "closed"
  | tombstone => "tombstone"
  | pinned => "pinned"
  | custom name => name

/-- Whether a status is one of the built-in ones. -/
def isBuiltin : Status → Bool
  | custom _ => false
  | _ => true

/-- The status with a name: a built-in one where there is one. -/
def ofName (name : String) : Status :=
  (builtin.find? (·.name == name)).getD (custom name)

end Status

/-- What sort of work an issue is. -/
inductive IssueType
  | bug
  | feature
  | task
  | epic
  | chore
  | custom (name : String)
  deriving DecidableEq, Repr

namespace IssueType

/-- The built-in types, in the order in which they are listed. -/
def builtin : List IssueType := [bug, feature, task, epic, chore]

/-- The name of a type. -/
def name : IssueType → String
  | bug => "bug"
  | feature => "feature"
  | task => "task"
  | epic => "epic"
  | chore => "chore"
  | custom name => name

/-- Whether a type is one of the built-in ones. -/
def isBuiltin : IssueType → Bool
  | custom _ => false
  | _ => true

/-- The type with a name: a built-in one where there is one. -/
def ofName (name : String) : IssueType :=
  (builtin.find? (·.name == name)).getD (custom name)

end IssueType

end IssueIntake
