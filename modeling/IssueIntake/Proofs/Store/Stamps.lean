import IssueIntake.Proofs.Store.ReadBack
/-!
# The stamps of an entry

The time at which an issue is taken in is written beside its row: into the row of its event and into
its mark. What validation checks are the timestamps of the issue, and it checks that time only where
it becomes one of them. The stamps are read back if the year of that time has four digits; if it has
not, an issue that brings its own timestamps is taken in all the same, and the stamps can never be
read (`stamps_read_back`).
-/

namespace IssueIntake

open Relation

namespace Tables

variable {t u : Tables}

/-- An issue that is there keeps its mark, whatever is done to the tables. -/
theorem run_marks (run : ReflTransGen Step t u) {id : String}
    (there : t.issues.contains id = true) : u.markedAt id = t.markedAt id := by
  have entry : EntryKeeps view refusal? (fun terms i w => w.book terms i) fun w =>
      w.issues.contains id = true ∧ w.markedAt id = t.markedAt id := by
    intro terms i j w kept _ taken
    -- A new entry has an identifier of its own.
    have other : id ≠ j.id := by
      rintro rfl
      rw [contains_eq_false_of_refusal taken] at kept
      exact absurd kept.1 (by decide)
    have mark : (w.book terms j).markedAt id = w.markedAt id := by
      simp only [markedAt, book, Keyed.get?_insert, if_neg other]
    exact ⟨by simp [book, Keyed.contains_insert, kept.1], mark.trans kept.2⟩
  have settings : ∀ (w : Tables) (key value : String),
      (w.issues.contains id = true ∧ w.markedAt id = t.markedAt id) →
      (w.setConfig key value).issues.contains id = true ∧
        (w.setConfig key value).markedAt id = t.markedAt id := fun _ _ _ kept => kept
  exact (run_keeps backend_books entry settings run ⟨there, rfl⟩).2

/-- The mark of an entry, as it is read. -/
theorem markedAt_book (terms : Terms) (i : Issue) (t : Tables) :
    (t.book terms i).markedAt i.id = if Issue.isStorable terms.now then .ok (some terms.now)
      else .error (.database (.conversion 0 (.instant .invalid))) := by
  simp only [markedAt, book, Keyed.get?_insert, if_true, IssueRow.readOptionalStamp,
    IssueRow.readStamp_stored]
  by_cases four : Issue.isStorable terms.now = true
  · rw [if_pos four, if_pos four]
    rfl
  · rw [if_neg four, if_neg four]
    rfl

end Tables

/-- An issue that is taken in at a time that no issue may carry comes with the times of its creation
and of its last change: if one of them were filled in, validation would find it. -/
theorem View.stamped_of_decision {ε : Type} {v : View} {terms : Terms} {i j : Issue}
    (decided : v.decision terms i = ((.ok (), j) : Decision ε))
    (outside : Issue.isStorable terms.now = false) :
    i.createdAt.isSome = true ∧ i.updatedAt.isSome = true := by
  obtain ⟨prepared, id, ready, -, rfl⟩ := View.decision_eq_ok_iff.1 decided
  obtain ⟨repairs, repaired, repair, valid, -⟩ := Issue.prepare_eq_ok_iff.1 ready
  obtain ⟨created, updated⟩ := i.repair_times terms.now
  rw [repair] at created updated
  obtain ⟨-, -, -, -, years, -, -⟩ := Issue.validate_eq_ok_iff.1 valid
  have given : ∀ stamp : Option Instant, Issue.isStorable (stamp.getD terms.now) = true →
      stamp.isSome = true := by
    intro stamp checked
    cases stamp with
    | some t => rfl
    | none =>
      rw [Option.getD_none, outside] at checked
      cases checked
  exact ⟨given _ (years .createdAt _ created), given _ (years .updatedAt _ updated)⟩

/-- The stamps of an issue that has been taken in, in its mark and in the row of its event, are read
as the time at which it was, now and whatever is done to the tables afterwards, if the year has four
digits. If it has not, neither can ever be read, and the issue came with the times of its creation
and of its last change. -/
theorem stamps_read_back {terms : Terms} {given stored : Issue} {t u later : Tables}
    (taken : Ingest.ingest Tables.backend terms given t = ⟨.ok (), stored, u⟩)
    (run : ReflTransGen Tables.Step u later) :
    (later.markedAt stored.id = if Issue.isStorable terms.now then .ok (some terms.now)
        else .error (.database (.conversion 0 (.instant .invalid)))) ∧
      (∃ row, t.events ++ [row] <+: later.events ∧ row.issueId = stored.id ∧
        IssueRow.readStamp 5 row.createdAt = if Issue.isStorable terms.now then .ok terms.now
          else .error (.conversion 5 (.instant .invalid))) ∧
      (Issue.isStorable terms.now = false →
        given.createdAt.isSome = true ∧ given.updatedAt.isSome = true) := by
  obtain ⟨decided, -, rfl⟩ := (Ingest.ingest_eq_ok_iff Tables.backend_books).1 taken
  have there : (t.book terms stored).issues.contains stored.id = true := by
    simp [Tables.book, Keyed.contains_insert]
  refine ⟨?_, ?_, View.stamped_of_decision decided⟩
  · rw [Tables.run_marks run there, Tables.markedAt_book]
  · exact ⟨_, (Tables.run_extends run).events, rfl, IssueRow.readStamp_stored 5 terms.now⟩

/-- An issue with its own timestamps is taken in in the year 10000, and another one in 1970. -/
theorem stamps_read_back_year_10000 :
    let future : Instant := ⟨⟨10000, 1, 1, by decide, by decide, by decide⟩, 0, 0, 0, 0,
      by decide, by decide, by decide, by decide, by decide⟩
    let own := { Issue.new "bd-1" "Fix the parser" with
      contentHash := "0"
      createdAt := some .epoch
      updatedAt := some .epoch }
    let other := { Issue.new "bd-2" "Test the parser" with contentHash := "0" }
    let t := Tables.empty.setConfig Setting.issueSpace "bd"
    let first := Ingest.ingest Tables.backend ⟨"ann", .strict, future⟩ own t
    let second := Ingest.ingest Tables.backend ⟨"ann", .strict, .epoch⟩ other first.store
    (first.result = .ok () ∧ second.result = .ok ()) ∧
      second.store.markedAt "bd-1" = .error (.database (.conversion 0 (.instant .invalid))) ∧
      second.store.markedAt "bd-2" = .ok (some .epoch) := by
  intro future own other t first second
  have ok : first.result = .ok () := by decide +kernel
  have ok' : second.result = .ok () := by decide +kernel
  have id : first.issue.id = "bd-1" := by decide +kernel
  have id' : second.issue.id = "bd-2" := by decide +kernel
  have taken : first = ⟨.ok (), first.issue, first.store⟩ := by rw [← ok]
  have taken' : second = ⟨.ok (), second.issue, second.store⟩ := by rw [← ok']
  obtain ⟨unread, -⟩ := stamps_read_back taken (.single (.createBare _ _ other))
  obtain ⟨read, -⟩ := stamps_read_back taken' .refl
  rw [id] at unread
  rw [id'] at read
  exact ⟨⟨ok, ok'⟩, unread, read⟩

end IssueIntake
