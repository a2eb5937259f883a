import IssueIntake.Event.Basic
import IssueIntake.Ingest.Call
import IssueIntake.Issue.Vocabulary
import IssueIntake.Text.NameList
/-!
# What ingestion asks of a store

Issues are taken in through eight calls, whatever the store behind them. Each sees what earlier
calls on the same state have written. The calls for the names of custom statuses and types need
not be given: then they read the settings that list these names.
-/

namespace IssueIntake

/-! ## Settings -/

namespace Setting

/-- The namespace of all identifiers. It has to be set before the first issue is taken in. -/
def issueSpace : String := "issue_prefix"

/-- The names of custom statuses. -/
def statuses : String := "status.custom"

/-- The names of custom types. -/
def types : String := "types.custom"

end Setting

namespace Setting

variable {σ ε : Type}

/-- The names in a setting, by the call that reads settings; none if it is absent. -/
def names (read : String → Call σ ε (Option String)) (key : String) :
    Call σ ε (List String) := do
  return match ← read key with
    | some raw => NameList.parse raw
    | none => []

end Setting

/-! ## Calls -/

/-- The calls of a store with states `σ` and failures `ε`. -/
structure Backend (σ ε : Type) where
  /-- The value of a setting. -/
  configValue : String → Call σ ε (Option String)
  /-- The names of custom statuses. -/
  customStatuses : Call σ ε (List String) := Setting.names configValue Setting.statuses
  /-- The names of custom types. -/
  customTypes : Call σ ε (List String) := Setting.names configValue Setting.types
  /-- Whether an issue with an identifier is stored. -/
  issueExists : String → Call σ ε Bool
  /-- How many identifiers lie directly in a namespace and have no ordinals. -/
  countTopLevel : String → Call σ ε Nat
  /-- Stores an issue, and fails if its identifier is taken. -/
  insert : Issue → Call σ ε Unit
  /-- Adds an event to the audit log. -/
  recordEvent : Event → Call σ ε Unit
  /-- Marks an issue for the next export. -/
  markDirty : String → Instant → Call σ ε Unit

namespace Backend

variable {σ ε : Type}

/-- The names in a setting; none if it is absent. -/
def customNames (b : Backend σ ε) (key : String) : Call σ ε (List String) :=
  Setting.names b.configValue key

end Backend

end IssueIntake
