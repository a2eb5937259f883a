import IssueIntake.Identifier.Basic
import IssueIntake.Ingest.Generate
import IssueIntake.Issue.Validate
/-!
# Faults of ingestion

Where the ingestion of an issue can fail: one constructor for each of its phases.
-/

namespace IssueIntake

/-- Why an issue is not taken in. -/
inductive IngestError (ε : Type)
  | customStatuses (cause : ε)
  | customTypes (cause : ε)
  | violation (cause : Issue.Violation)
  | config (cause : ε)
  /-- No namespace is configured. -/
  | noSpace
  | generation (cause : Generate.Error ε)
  | wrongSpace (cause : Identifier.SpaceError)
  | insertion (id : String) (cause : ε)
  | recording (id : String) (cause : ε)
  | marking (id : String) (cause : ε)
  deriving DecidableEq, Repr

/-- How a fault is said, with the words for a failure of the store. -/
def IngestError.message {ε : Type} (showCause : ε → String) : IngestError ε → String
  | customStatuses cause => "failed to get custom statuses: " ++ showCause cause
  | customTypes cause => "failed to get custom types: " ++ showCause cause
  | violation cause => "validation failed: " ++ cause.message
  | config cause => "failed to get config: " ++ showCause cause
  | noSpace =>
    "store not initialized: issue_prefix config is missing " ++
      "(run `quarry init --prefix <prefix>` first)"
  | generation cause => "failed to generate issue ID: " ++ cause.message showCause
  | wrongSpace cause => "failed to validate issue ID prefix: " ++ cause.message
  | insertion id cause => "failed to insert issue " ++ id ++ ": " ++ showCause cause
  | recording id cause => "failed to record creation event for " ++ id ++ ": " ++ showCause cause
  | marking id cause => "failed to mark issue " ++ id ++ " dirty: " ++ showCause cause

end IssueIntake
