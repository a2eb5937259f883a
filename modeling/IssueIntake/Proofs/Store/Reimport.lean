import IssueIntake.Proofs.Ingest.Batch
import IssueIntake.Proofs.Ingest.Settled
import IssueIntake.Proofs.Store.Run
/-!
# Importing settled issues

A batch of settled issues with new and different identifiers is imported into all tables that
welcome them, whatever the order and the time, and leaves each of them in a row of its own
(`Tables.import_settled`).
-/

namespace IssueIntake

/-- An issue that the tables take in as it is, where it is welcome and trusted. -/
structure Issue.Settled (i : Issue) : Prop where
  sound : i.Sound
  named : i.id ≠ ""
  unbroken : (IssueRow.encode i).brokenRule? = none

namespace Tables

variable {t u : Tables}

/-- A batch is imported if its records are taken in, one after the other. -/
theorem importBatchBy_eq_ok_iff {terms : BatchTerms} {batch : List Issue} {ids : List String} :
    (importBatchBy backend terms batch).run t = (.ok ids, u) ↔
      ∃ js, Ingest.Taken view refusal? (fun terms i w => w.book terms i)
        (Ingest.schedule terms batch) t js u ∧ ids = js.map Issue.id :=
  Call.atomically_eq_ok_iff.trans (Ingest.ingestAll_eq_ok_iff backend_books)

/-- The settings of tables leave nothing to complain of an issue: a namespace is configured, and
its status and its type are accepted. -/
structure Welcomes (t : Tables) (i : Issue) : Prop where
  space : (t.view.space? i.spaceToken).isSome = true
  status : t.view.vocabulary.allowsStatus i.status = true
  issueType : t.view.vocabulary.allowsType i.issueType = true

/-! ## What a batch leaves in the tables -/

section Taken

variable {records : List (Terms × Issue × Nat)} {js : List Issue}

/-- What was in the tables before a batch is in them after it. -/
theorem extends_of_taken
    (taken : Ingest.Taken view refusal? (fun terms i w => w.book terms i) records t js u) :
    t.Extends u := by
  induction taken with
  | done w => exact .refl _
  | record decided new later ih =>
    exact (Ledger.extends_enter (contains_eq_false_of_refusal new)).trans ih

/-- A batch changes no setting. -/
theorem config_of_taken
    (taken : Ingest.Taken view refusal? (fun terms i w => w.book terms i) records t js u) :
    u.config = t.config := by
  induction taken with
  | done w => rfl
  | record decided new later ih => exact ih

/-- Each issue has a row. -/
theorem row_of_taken
    (taken : Ingest.Taken view refusal? (fun terms i w => w.book terms i) records t js u) :
    ∀ j ∈ js, u.issues.get? j.id = some (.encode j) := by
  induction taken with
  | done w => exact fun j hj => absurd hj List.not_mem_nil
  | @record terms i position rest w j js v decided new later ih =>
    refine List.forall_mem_cons.2 ⟨?_, ih⟩
    have entered : (w.book terms j).issues.get? j.id = some (.encode j) := by
      simp [book, Keyed.get?_insert]
    exact (extends_of_taken later).rows j.id _ entered

/-- No other row is there that was not there before. -/
theorem other_of_taken
    (taken : Ingest.Taken view refusal? (fun terms i w => w.book terms i) records t js u)
    {id : String} (other : id ∉ js.map Issue.id) : u.issues.get? id = t.issues.get? id := by
  induction taken with
  | done w => rfl
  | record decided new later ih =>
    rw [List.map_cons, List.mem_cons, not_or] at other
    rw [ih other.2, book, Keyed.get?_insert, if_neg other.1]

end Taken

/-! ## Settled issues -/

/-- Settled issues with new and different identifiers are taken in as they are. -/
theorem taken_of_settled {records : List (Terms × Issue × Nat)}
    (settled : ∀ record ∈ records, record.1.mode = .trusted ∧ record.2.1.Settled ∧
      t.Welcomes record.2.1)
    (distinct : ((records.map fun record => record.2.1).map Issue.id).Nodup)
    (fresh : ∀ record ∈ records, t.issues.contains record.2.1.id = false) :
    ∃ u, Ingest.Taken view refusal? (fun terms i w => w.book terms i) records t
      (records.map fun record => record.2.1) u := by
  induction records generalizing t with
  | nil => exact ⟨t, .done t⟩
  | cons record rest ih =>
    obtain ⟨terms, i, position⟩ := record
    obtain ⟨⟨trusted, ready, welcome⟩, others⟩ := List.forall_mem_cons.1 settled
    obtain ⟨new, free⟩ := List.forall_mem_cons.1 fresh
    obtain ⟨first, distinct⟩ := List.nodup_cons.1 distinct
    have decided : (t.view.decision terms i : Decision StoreError) = (.ok (), i) :=
      View.decision_of_sound ready.sound ready.named trusted welcome.space welcome.status
        welcome.issueType
    have accepted : refusal? i t = none := by
      simp only [refusal?, ready.unbroken, new]
      rfl
    -- An entry changes no setting, so the other issues are as welcome as before.
    have settled' : ∀ record ∈ rest, record.1.mode = .trusted ∧ record.2.1.Settled ∧
        (t.book terms i).Welcomes record.2.1 := fun record hr =>
      ⟨(others record hr).1, (others record hr).2.1, (others record hr).2.2.1,
        (others record hr).2.2.2, (others record hr).2.2.3⟩
    have fresh' : ∀ record ∈ rest, (t.book terms i).issues.contains record.2.1.id = false := by
      intro record hr
      have different : record.2.1.id ≠ i.id := fun same =>
        first (List.mem_map.2 ⟨record.2.1, List.mem_map_of_mem hr, same⟩)
      simp [book, Keyed.contains_insert, different, free record hr]
    obtain ⟨u, later⟩ := ih settled' distinct fresh'
    exact ⟨u, .record decided accepted later⟩

/-- Settled issues with new and different identifiers are imported as they are: each has a row, and
all other rows are those that were there before. -/
theorem import_settled {terms : BatchTerms} {batch : List Issue} (trusted : terms.mode = .trusted)
    (settled : ∀ i ∈ batch, i.Settled ∧ t.Welcomes i) (distinct : (batch.map Issue.id).Nodup)
    (fresh : ∀ i ∈ batch, t.issues.contains i.id = false) :
    ∃ ids u, (importBatchBy backend terms batch).run t = (.ok ids, u) ∧
      ids.Perm (batch.map Issue.id) ∧
      (∀ i ∈ batch, u.issues.get? i.id = some (.encode i)) ∧
      ∀ id ∉ batch.map Issue.id, u.issues.get? id = t.issues.get? id := by
  have same := Ingest.schedule_issues terms batch
  have given : ∀ record ∈ Ingest.schedule terms batch, record.2.1 ∈ batch := fun record hr =>
    same.mem_iff.1 (List.mem_map_of_mem hr)
  have ready : ∀ record ∈ Ingest.schedule terms batch, record.1.mode = .trusted ∧
      record.2.1.Settled ∧ t.Welcomes record.2.1 := fun record hr =>
    ⟨(Ingest.mode_of_mem_schedule hr).trans trusted, settled _ (given record hr)⟩
  obtain ⟨u, taken⟩ := taken_of_settled ready ((same.map Issue.id).nodup_iff.2 distinct)
    fun record hr => fresh _ (given record hr)
  refine ⟨_, u, importBatchBy_eq_ok_iff.2 ⟨_, taken, rfl⟩, same.map Issue.id, fun i hi => ?_,
    fun id other => other_of_taken taken ?_⟩
  · exact row_of_taken taken i (same.mem_iff.2 hi)
  · exact fun there => other ((same.map Issue.id).mem_iff.1 there)

end Tables

end IssueIntake
