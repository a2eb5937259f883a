import IssueIntake.Identifier.Basic
import IssueIntake.Ingest.Backend
import IssueIntake.Store.Keyed
/-!
# The store in memory

Issues, settings, events and marks as values. Events are kept in the order in which they were
recorded.
-/

namespace IssueIntake

/-- What a store in memory holds. -/
structure Memory where
  issues : Keyed Issue
  config : Keyed String
  events : List Event
  dirty : Keyed Instant
  deriving DecidableEq, Repr

/-- Why a store in memory refuses a call. -/
inductive MemoryError
  | alreadyExists (id : String)
  | notFound (id : String)
  deriving DecidableEq, Repr

/-- How a refusal is said. -/
def MemoryError.message : MemoryError → String
  | alreadyExists id => "issue already exists: " ++ id
  | notFound id => "issue not found: " ++ id

namespace Memory

/-- The store that holds nothing. -/
def empty : Memory := ⟨.empty, .empty, [], .empty⟩

/-- With a setting. -/
def setConfig (m : Memory) (key value : String) : Memory :=
  { m with config := m.config.insert key value }

/-- An empty store with a namespace. -/
def withSpace (space : String) : Memory :=
  empty.setConfig Setting.issueSpace space

/-- With a list of names as a setting. -/
def setNames (m : Memory) (key : String) (names : List String) : Memory :=
  m.setConfig key (NameList.format names)

/-- With an issue, instead of one with the same identifier; nothing is checked or recorded. -/
def upsert (m : Memory) (i : Issue) : Memory :=
  { m with issues := m.issues.insert i.id i }

/-- The events of an issue, in the order in which they were recorded. -/
def eventsOf (m : Memory) (id : String) : List Event :=
  m.events.filter (·.issueId == id)

/-- How many identifiers lie directly in a namespace and have no ordinals. -/
def countTopLevel (m : Memory) (space : String) : Nat :=
  m.issues.keys.countP (Identifier.isTopLevelIn space)

/-- A call that is refused unless an issue is stored. -/
def ifStored (id : String) (f : Memory → Memory) : Call Memory MemoryError Unit := fun m =>
  if m.issues.contains id then (.ok (), f m) else (.error (.notFound id), m)

/-- The calls of a store in memory. -/
def backend : Backend Memory MemoryError where
  configValue key := .look (·.config.get? key)
  issueExists id := .look (·.issues.contains id)
  countTopLevel space := .look (·.countTopLevel space)
  insert i := fun m =>
    if m.issues.contains i.id then (.error (.alreadyExists i.id), m) else (.ok (), m.upsert i)
  recordEvent e := ifStored e.issueId fun m => { m with events := m.events ++ [e] }
  markDirty id now := ifStored id fun m => { m with dirty := m.dirty.insert id now }

end Memory

end IssueIntake
