import Mathlib.Control.Monad.Basic
import IssueIntake.Calendar.Epoch
import IssueIntake.Proofs.Store.Books
/-!
# All or nothing without a transaction

A single issue is either entered into the store in memory as a whole, with its event and its mark,
or the store is what it was (`ingestion_all_or_nothing`). Nothing is asked of the store: its rows,
events and marks need not have come from ingestion. The insertion is the only write that can fail,
since an issue that has just been inserted is there for its event and its mark.
-/

namespace IssueIntake

/-- Ingestion into the store in memory that fails leaves the store as it was: it has found a fault
by itself, or the identifier is taken. Ingestion that succeeds makes one whole entry, under an
identifier that was not taken. So a transaction makes no difference to it. -/
theorem ingestion_all_or_nothing (m : Memory) (terms : Terms) (i : Issue) :
    let outcome := Ingest.ingest Memory.backend terms i m
    (∀ e, outcome.result = .error e → outcome.store = m ∧
      (e.IsOwn ∨ ∃ id, m.issues.contains id = true ∧ e = .insertion id (.alreadyExists id))) ∧
    (outcome.result = .ok () → m.issues.contains outcome.issue.id = false ∧
      outcome.store = m.book terms outcome.issue) ∧
    (Ingest.ingestCall Memory.backend terms i).atomically =
      Ingest.ingestCall Memory.backend terms i := by
  intro outcome
  have books := Memory.backend_books
  refine ⟨fun e failed => ⟨Ingest.ingest_store_of_error books failed, ?_⟩, fun accepted => ?_,
    Ingest.ingestCall_atomically books terms i⟩
  · obtain own | ⟨j, cause, refused, rfl⟩ := Ingest.isOwn_or_refused books failed
    · exact .inl own
    · obtain ⟨taken, rfl⟩ := Memory.refusal?_eq_some_iff.1 refused
      exact .inr ⟨j.id, taken, rfl⟩
  · have entered : outcome = ⟨.ok (), outcome.issue, outcome.store⟩ := by rw [← accepted]
    obtain ⟨-, admitted, store⟩ := (Ingest.ingest_eq_ok_iff books).1 entered
    exact ⟨Memory.contains_eq_false_of_refusal admitted, store⟩

/-- A store with a row that was put there past ingestion, with an event of an issue that is not
there and with a mark for another. The identifier of the row is refused and nothing changes; that
of the mark is free. -/
theorem ingestion_all_or_nothing_any_rows :
    let terms : Terms := ⟨"ann", .trusted, .epoch⟩
    let m := { (Memory.withSpace "bd").upsert (Issue.new "bd-1" "T") with
      events := [.created (Issue.new "bd-9" "T") "ann" .epoch]
      dirty := Keyed.empty.insert "bd-2" .epoch }
    let refused := Ingest.ingest Memory.backend terms (Issue.new "bd-1" "U") m
    let accepted := Ingest.ingest Memory.backend terms (Issue.new "bd-2" "U") m
    (refused.result = .error (.insertion "bd-1" (.alreadyExists "bd-1")) ∧ refused.store = m) ∧
      (accepted.result = .ok () ∧ accepted.store = m.book terms accepted.issue) := by
  intro terms m refused accepted
  have taken : refused.result = .error (.insertion "bd-1" (.alreadyExists "bd-1")) := by
    decide +kernel
  have free : accepted.result = .ok () := by decide +kernel
  obtain ⟨failure, -, -⟩ := ingestion_all_or_nothing m terms (Issue.new "bd-1" "U")
  obtain ⟨-, success, -⟩ := ingestion_all_or_nothing m terms (Issue.new "bd-2" "U")
  exact ⟨⟨taken, (failure _ taken).1⟩, free, (success free).2⟩

end IssueIntake
