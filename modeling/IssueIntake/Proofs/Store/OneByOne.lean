import IssueIntake.Proofs.Store.AuditLog
import IssueIntake.Proofs.Store.Reimport
/-!
# Batches and single issues

A batch that is imported at one instant leaves what its records leave when they are taken in one by
one, in the order of their depth, each in a transaction of its own. A batch that fails stops at the
record at which they would, and leaves nothing. `importBatch_one_by_one` says both.
-/

namespace IssueIntake

namespace Call

variable {σ ε : Type}

instance : LawfulMonad (Call σ ε) :=
  .mk' _
    (fun c => by
      funext s
      change (c >>= pure).run s = c.run s
      rw [run_bind]
      rcases c.run s with ⟨_ | a, t⟩ <;> rfl)
    (fun a next => rfl)
    (fun c next last => by
      funext s
      change (c >>= next >>= last).run s = (c >>= fun a => next a >>= last).run s
      simp only [run_bind]
      rcases c.run s with ⟨_ | a, t⟩ <;> rfl)

end Call

namespace Ingest

/-- While the clock stands still all records have the same terms. -/
theorem schedule_still (terms : Terms) (batch : List Issue) :
    schedule (.still terms) batch = (ordered batch).map (terms, ·) :=
  List.ext_getElem (by simp [schedule]) (by simp [schedule, BatchTerms.still, BatchTerms.atPlace])

end Ingest

namespace Tables

variable {t u : Tables} {terms : Terms}

/-- An issue that is not taken in leaves the tables as they were. -/
theorem createIssue_eq_error_iff {i j : Issue} {cause : IngestError StoreError} :
    (createIssue terms i).run t = (.error (cause, j), u) ↔
      Ingest.ingest backend terms i t = ⟨.error cause, j, u⟩ := by
  rw [createIssue, createIssueBy, Ingest.ingestCall_atomically backend_books,
    Ingest.ingestCall_eq_error_iff]

/-- Issues that are taken in one by one are taken in as records of one batch are. -/
theorem mapM_createIssue_eq_ok_iff {records : List (Issue × Nat)} {stored : List Issue} :
    ((records.map Prod.fst).mapM (createIssue terms)).run t = (.ok stored, u) ↔
      Ingest.Taken view refusal? (fun terms i w => w.book terms i) (records.map (terms, ·))
        t stored u := by
  induction records generalizing t stored with
  | nil =>
    constructor
    · rintro ⟨⟩
      exact .done _
    · rintro ⟨⟩
      rfl
  | cons record records ih =>
    simp only [List.map_cons, List.mapM_cons, Call.run_bind_eq_ok_iff]
    constructor
    · rintro ⟨j, v, first, js, w, later, answer⟩
      cases answer
      obtain ⟨decided, new, rfl⟩ := createIssue_eq_ok_iff.1 first
      exact .record decided new (ih.1 later)
    · rintro (_ | ⟨decided, new, later⟩)
      exact ⟨_, _, createIssue_eq_ok_iff.2 ⟨decided, new, rfl⟩, _, _, ih.2 later, rfl⟩

/-- A batch that is not imported stops at one record, and leaves the tables as they were. -/
theorem halted_of_importBatchBy {t u : Tables} {terms : BatchTerms} {batch : List Issue}
    {e : BatchError StoreError}
    (ran : (importBatchBy backend terms batch).run t = (.error e, u)) :
    u = t ∧ ∃ w, Ingest.Halted backend view refusal? (fun terms i w => w.book terms i)
      (Ingest.schedule terms batch) t e w := by
  obtain ⟨⟨w, failed⟩, same⟩ := Call.atomically_eq_error_iff.1 ran
  exact ⟨same, w, Ingest.halted_of_ingestAll backend_books failed⟩

end Tables

/-! ## A batch is its records, one by one, or nothing -/

/-- A batch that is imported answers with the identifiers of its records, and leaves the tables, as
if they were taken in one by one, stably sorted by depth. A batch that fails names the first record
of these that is not taken in after the earlier ones, with its fault and its identifier then, and
leaves the tables as they were. -/
theorem importBatch_one_by_one (terms : Terms) (batch : List Issue) (t : Tables) :
    let sorted := batch.zipIdx.mergeSort Ingest.noDeeper
    match (Tables.importBatch terms batch).run t with
    | (.ok ids, u) => ∃ stored,
        ((sorted.map Prod.fst).mapM (Tables.createIssue terms)).run t = (.ok stored, u) ∧
          ids = stored.map Issue.id
    | (.error e, u) => u = t ∧ ∃ before i after stored w j,
        sorted = before ++ (i, e.position) :: after ∧
          ((before.map Prod.fst).mapM (Tables.createIssue terms)).run t = (.ok stored, w) ∧
          (Tables.createIssue terms i).run w = (.error (e.cause, j), w) ∧
          e.id = if j.id = "" then unassigned else j.id := by
  intro sorted
  have order : Ingest.schedule (.still terms) batch = sorted.map (terms, ·) := by
    rw [Ingest.schedule_still, Ingest.ordered_eq_mergeSort]
  rcases ran : (Tables.importBatch terms batch).run t with ⟨e | ids, u⟩
  · obtain ⟨same, w, halted⟩ := Tables.halted_of_importBatchBy ran
    refine ⟨same, ?_⟩
    cases halted with
    | @record before after terms' i position stored j cause _ parts taken failed =>
      rw [order] at parts
      obtain ⟨first, rest, whole, rfl, tail⟩ := List.map_eq_append_iff.1 parts
      obtain ⟨record, last, rfl, here, -⟩ := List.map_eq_cons_iff.1 tail
      cases here
      exact ⟨first, _, last, stored, w, j, whole, Tables.mapM_createIssue_eq_ok_iff.2 taken,
        Tables.createIssue_eq_error_iff.2 failed, by simp⟩
  · obtain ⟨stored, taken, rfl⟩ := Tables.importBatchBy_eq_ok_iff.1 ran
    rw [order] at taken
    exact ⟨stored, Tables.mapM_createIssue_eq_ok_iff.2 taken, rfl⟩

end IssueIntake
