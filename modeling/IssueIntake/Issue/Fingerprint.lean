import IssueIntake.Issue.Basic
import IssueIntake.Digest.FieldStream
/-!
# Fingerprints of issues

The hash of the fields that carry meaning. Identifier, timestamps, marks of deletion and metadata
do not enter it, so bookkeeping never changes the fingerprint.
-/

namespace IssueIntake.Issue

/-- The fields that enter the fingerprint, in order. -/
def meaning (i : Issue) : List NamedField :=
  [⟨"title", i.title⟩,
   ⟨"description", i.description⟩,
   ⟨"design", i.design⟩,
   ⟨"acceptance_criteria", i.acceptanceCriteria⟩,
   ⟨"notes", i.notes⟩,
   ⟨"status", i.status.name⟩,
   .ofInt "priority" i.priority,
   ⟨"issue_type", i.issueType.name⟩,
   ⟨"assignee", i.assignee⟩,
   ⟨"owner", i.owner⟩,
   ⟨"created_by", i.createdBy⟩] ++
  NamedField.ofOption "external_ref" i.externalRef ++
  [⟨"close_reason", i.closeReason⟩,
   .ofBool "ephemeral" i.ephemeral,
   .ofBool "pinned" i.pinned]

/-- The fingerprint of an issue, in lower-case hexadecimal digits. -/
def fingerprint (i : Issue) : String :=
  NamedField.hash i.meaning

end IssueIntake.Issue
