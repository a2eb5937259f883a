import IssueIntake.Calendar.Epoch
import IssueIntake.Issue.Fingerprint
import IssueIntake.Proofs.Digest.FieldStream
/-!
# What a fingerprint tells of an issue

The stream that is hashed determines the fields that carry meaning, and nothing else enters it
(`stream_meaning_eq_iff`): so two issues with the same fingerprint mean the same, or their streams
are a collision of SHA-256 (`fingerprint_separates`).
-/

namespace IssueIntake

theorem Status.eq_of_name_eq {s t : Status} (hs : ofName s.name = s) (ht : ofName t.name = t)
    (same : s.name = t.name) : s = t := by
  rw [← hs, same, ht]

theorem IssueType.eq_of_name_eq {s t : IssueType} (hs : ofName s.name = s) (ht : ofName t.name = t)
    (same : s.name = t.name) : s = t := by
  rw [← hs, same, ht]

namespace Issue

open NamedField (stream)

/-- The status and the type of an issue are those that their names stand for: none that is built in
is spelled out. -/
structure Canonical (i : Issue) : Prop where
  status : .ofName i.status.name = i.status
  issueType : .ofName i.issueType.name = i.issueType

/-- Two issues agree in all fields that carry meaning. -/
structure SameMeaning (i j : Issue) : Prop where
  title : i.title = j.title
  description : i.description = j.description
  design : i.design = j.design
  acceptanceCriteria : i.acceptanceCriteria = j.acceptanceCriteria
  notes : i.notes = j.notes
  status : i.status = j.status
  priority : i.priority = j.priority
  issueType : i.issueType = j.issueType
  assignee : i.assignee = j.assignee
  owner : i.owner = j.owner
  createdBy : i.createdBy = j.createdBy
  externalRef : i.externalRef = j.externalRef
  closeReason : i.closeReason = j.closeReason
  ephemeral : i.ephemeral = j.ephemeral
  pinned : i.pinned = j.pinned

variable {i j : Issue}

theorem SameMeaning.meaning_eq (same : i.SameMeaning j) : i.meaning = j.meaning := by
  unfold meaning
  rw [same.title, same.description, same.design, same.acceptanceCriteria, same.notes, same.status,
    same.priority, same.issueType, same.assignee, same.owner, same.createdBy, same.externalRef,
    same.closeReason, same.ephemeral, same.pinned]

/-- The names of the fields are fixed, and none holds a colon. -/
theorem plain_of_mem_meaning (i : Issue) : ∀ f ∈ i.meaning, f.Plain := by
  have names : ∀ name ∈ i.meaning.map NamedField.name, ':' ∉ name.toList := by
    cases hr : i.externalRef <;>
      simp only [meaning, hr, NamedField.ofOption, NamedField.ofInt, NamedField.ofBool,
        Option.map_none, Option.map_some, Option.toList_none, Option.toList_some, List.map_append,
        List.map_cons, List.map_nil] <;>
      decide
  exact fun f hf => names f.name (List.mem_map_of_mem hf)

/-- The fields that are hashed tell all that carries meaning. -/
theorem meaning_eq_iff (hi : i.Canonical) (hj : j.Canonical) :
    i.meaning = j.meaning ↔ i.SameMeaning j := by
  refine ⟨fun same => ?_, SameMeaning.meaning_eq⟩
  unfold meaning at same
  rw [List.append_assoc, List.append_assoc] at same
  obtain ⟨before, rest⟩ := List.append_inj same rfl
  have other : "close_reason" ≠ "external_ref" := by decide
  obtain ⟨externalRef, after⟩ := NamedField.ofOption_append_inj other other rest
  simp only [List.cons.injEq, NamedField.mk.injEq, true_and, and_true, NamedField.ofInt_inj,
    NamedField.ofBool_inj] at before after
  obtain ⟨title, description, design, acceptanceCriteria, notes, status, priority, issueType,
    assignee, owner, createdBy⟩ := before
  obtain ⟨closeReason, ephemeral, pinned⟩ := after
  exact {
    title, description, design, acceptanceCriteria, notes, priority, assignee, owner, createdBy,
    externalRef, closeReason, ephemeral, pinned
    status := Status.eq_of_name_eq hi.status hj.status status
    issueType := IssueType.eq_of_name_eq hi.issueType hj.issueType issueType }

/-- The bytes that are hashed tell all that carries meaning, whatever the values hold. -/
theorem stream_meaning_eq_iff (hi : i.Canonical) (hj : j.Canonical) :
    stream i.meaning = stream j.meaning ↔ i.SameMeaning j :=
  (NamedField.stream_inj i.plain_of_mem_meaning j.plain_of_mem_meaning).trans
    (meaning_eq_iff hi hj)

/-- The bytes that are hashed are those of another issue if and only if both agree in all fields
that carry meaning. So issues that differ in other fields have the same fingerprint; and if issues
that differ in one of these have the same fingerprint, their streams are two messages with the same
digest. -/
theorem fingerprint_separates (hi : i.Canonical) (hj : j.Canonical) :
    (stream i.meaning = stream j.meaning ↔ i.SameMeaning j) ∧
      (i.SameMeaning j → i.fingerprint = j.fingerprint) ∧
      (¬ i.SameMeaning j → i.fingerprint = j.fingerprint →
        stream i.meaning ≠ stream j.meaning ∧
          Sha256.digest (stream i.meaning) = Sha256.digest (stream j.meaning)) := by
  have told := stream_meaning_eq_iff hi hj
  refine ⟨told, fun same => ?_, fun differ collide => ⟨fun same => differ (told.1 same), ?_⟩⟩
  · exact congrArg NamedField.hash same.meaning_eq
  · exact NamedField.hash_eq_iff.1 collide

/-- A title that holds the text of the next field, the same text spread over both fields, and the
first issue with other bookkeeping. -/
theorem fingerprint_separates_smuggled :
    let smuggled := { Issue.new "" "x\ndescription:1:y" with status := .custom "review" }
    let spread := { smuggled with title := "x", description := "y", externalRef := some "" }
    let moved := { smuggled with
      id := "bd-1"
      contentHash := "0"
      createdAt := some .epoch
      deletedBy := "ann"
      deleteReason := "moved"
      metadata := some (.array [])
      spaceToken := "web" }
    smuggled.Canonical ∧ spread.Canonical ∧ moved.Canonical ∧
      stream smuggled.meaning ≠ stream spread.meaning ∧
      (smuggled.fingerprint = spread.fingerprint →
        Sha256.digest (stream smuggled.meaning) = Sha256.digest (stream spread.meaning)) ∧
      smuggled.fingerprint = moved.fingerprint := by
  intro smuggled spread moved
  have canonical : smuggled.Canonical := ⟨by decide, by decide⟩
  have spreadCanonical : spread.Canonical := ⟨by decide, by decide⟩
  have movedCanonical : moved.Canonical := ⟨by decide, by decide⟩
  have differ : ¬ smuggled.SameMeaning spread := fun same => absurd same.title (by decide)
  have agree : smuggled.SameMeaning moved := by constructor <;> rfl
  obtain ⟨told, -, collision⟩ := fingerprint_separates canonical spreadCanonical
  refine ⟨canonical, spreadCanonical, movedCanonical, fun same => differ (told.1 same),
    fun same => (collision differ same).2, ?_⟩
  exact (fingerprint_separates canonical movedCanonical).2.1 agree

end Issue

end IssueIntake
