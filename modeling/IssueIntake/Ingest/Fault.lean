import IssueIntake.Ingest.Backend
/-!
# Stores that fail on purpose

A store behaves the same around a failing call wherever that call is. `failingAt` makes one kind
of call fail before it does anything, so that every phase of ingestion can be seen to fail.
-/

namespace IssueIntake

/-- The call that is made to fail. -/
inductive FaultPoint
  /-- Reading the setting with a key. -/
  | config (key : String)
  | count
  | lookup
  | insert
  | event
  | dirty
  deriving DecidableEq, Repr

/-- The name of a call that is made to fail. -/
def FaultPoint.name : FaultPoint → String
  | config key => "config:" ++ key
  | count => "count"
  | lookup => "exists"
  | insert => "insert"
  | event => "event"
  | dirty => "dirty"

/-- A failure of the store itself, or one that was made. -/
inductive Faulty (ε : Type)
  | injected (point : FaultPoint)
  | genuine (cause : ε)
  deriving DecidableEq, Repr

/-- How a failure is said, with the words for one of the store itself. -/
def Faulty.message {ε : Type} (showCause : ε → String) : Faulty ε → String
  | injected point => "injected failure at " ++ point.name
  | genuine cause => showCause cause

namespace Backend

variable {σ ε α : Type}

/-- A call that fails if it is the one to fail. -/
def guarded (point : Option FaultPoint) (here : FaultPoint) (c : Call σ ε α) :
    Call σ (Faulty ε) α :=
  if point = some here then .fail (.injected here) else c.mapError .genuine

/-- The store with one kind of call made to fail, or none. -/
def failingAt (b : Backend σ ε) (point : Option FaultPoint) : Backend σ (Faulty ε) where
  configValue key := guarded point (.config key) (b.configValue key)
  customStatuses := guarded point (.config Setting.statuses) b.customStatuses
  customTypes := guarded point (.config Setting.types) b.customTypes
  issueExists id := guarded point .lookup (b.issueExists id)
  countTopLevel space := guarded point .count (b.countTopLevel space)
  insert i := guarded point .insert (b.insert i)
  recordEvent e := guarded point .event (b.recordEvent e)
  markDirty id now := guarded point .dirty (b.markDirty id now)

end Backend

end IssueIntake
