import IssueIntake.Proofs.Store.AuditLog
import IssueIntake.Proofs.Store.Constraints
/-!
# Inserted rows that cannot be read

The insertion of a row checks the rules of the table, and no more. An issue without the time of its
creation or of its last change meets them, since an empty text stands in its place, and so does one
with a year that has a sign. `insert_reads_back` says what is read of every row that is inserted:
the issue, if both times are there, all years have four digits and the metadata nests no deeper than
what is read; else the fault of the first column that breaks this.
-/

namespace IssueIntake

namespace Tables

/-- An issue is refused and nothing changes, or its row is there and is read back as the issue,
unless one of its columns cannot be read: the time of its creation or of its last change is absent,
the year of a timestamp has a sign, or the metadata nests too deep. -/
theorem insert_reads_back {i : Issue} (canonical : i.Canonical) (held : i.ExactMetadata)
    (t : Tables) :
    (match refusal? i t with
      | some e => (insert i).run t = (.error e, t)
      | none => ∃ u, (insert i).run t = (.ok (), u) ∧ u.issue? i.id = match i.rowFault? with
        | some e => .error (.database e)
        | none => .ok (some i.written)) ∧
      (i.rowFault? = none ↔ (i.createdAt.isSome = true ∧ i.updatedAt.isSome = true) ∧
        (∀ s time, i.stamp? s = some time → 0 ≤ time.date.year ∧ time.date.year ≤ 9999) ∧
        i.metadataLevels ≤ Json.maxLevels) := by
  refine ⟨?_, Issue.rowFault?_eq_none_iff⟩
  have run := insert_run i t
  cases refused : refusal? i t with
  | some e =>
    rw [refused] at run
    exact run
  | none =>
    rw [refused] at run
    refine ⟨_, run, ?_⟩
    have row : (IssueRow.encode i).decode = _ := IssueRow.reads_encode canonical held
    simp only [issue?, Keyed.get?_insert, if_true, row]
    cases i.rowFault? <;> rfl

/-- A bare issue is inserted but cannot be read, and neither can one with the year 10000 or one with
metadata of 128 levels; one with its two times is read back. -/
theorem insert_reads_back_bare :
    let bare := Issue.new "bd-1" "Fix the parser"
    let dated := { bare with createdAt := some .epoch, updatedAt := some .epoch }
    let late := { dated with
      updatedAt := some ⟨⟨10000, 1, 1, by decide, by decide, by decide⟩, 0, 0, 0, 0,
        by decide, by decide, by decide, by decide, by decide⟩ }
    let deep := { dated with metadata := some (.nested 127) }
    let after (i : Issue) := ((insert i).run empty).2
    (∀ i ∈ [dated, bare, late, deep],
      i.Canonical ∧ i.ExactMetadata ∧ (insert i).run empty = (.ok (), after i)) ∧
      (after dated).issue? "bd-1" = .ok (some dated) ∧
      (after bare).issue? "bd-1" =
        .error (.database (.conversion 13 (.instant .tooShort))) ∧
      (after late).issue? "bd-1" =
        .error (.database (.conversion 14 (.instant .invalid))) ∧
      (after deep).issue? "bd-1" = .error (.database (.conversion 23 .tooDeep)) := by
  intro bare dated late deep after
  have canonical : ∀ i ∈ [dated, bare, late, deep], i.Canonical ∧ i.ExactMetadata := by
    simp only [List.forall_mem_cons, List.not_mem_nil, false_imp_iff, implies_true, and_true]
    refine ⟨⟨⟨rfl, rfl⟩, ?_⟩, ⟨⟨rfl, rfl⟩, ?_⟩, ⟨⟨rfl, rfl⟩, ?_⟩, ⟨rfl, rfl⟩, ?_⟩ <;>
      rintro v ⟨⟩
    exact ⟨Json.normalize_nested 127, Json.numbers_nested _ 127⟩
  have taken : ∀ i ∈ [dated, bare, late, deep], refusal? i empty = none := by decide +kernel
  have inserted : ∀ i ∈ [dated, bare, late, deep], (insert i).run empty = (.ok (), after i) ∧
      (after i).issue? i.id = match i.rowFault? with
        | some e => .error (.database e)
        | none => .ok (some i.written) := by
    intro i hi
    obtain ⟨inserted, -⟩ := insert_reads_back (canonical i hi).1 (canonical i hi).2 empty
    rw [taken i hi] at inserted
    obtain ⟨u, run, read⟩ := inserted
    obtain rfl : after i = u := congrArg Prod.snd run
    exact ⟨run, read⟩
  refine ⟨fun i hi => ⟨(canonical i hi).1, (canonical i hi).2, (inserted i hi).1⟩, ?_, ?_, ?_, ?_⟩
  · exact (inserted dated (by simp)).2
  · exact (inserted bare (by simp)).2
  · exact (inserted late (by simp)).2
  · have levels : deep.metadataLevels = 128 := Json.levels_nested 127
    have fault : deep.rowFault? = some (.conversion 23 .tooDeep) := by
      rw [Issue.rowFault?, Issue.metadataFault?, levels]
      rfl
    have read := (inserted deep (by simp)).2
    rwa [fault] at read

end Tables

end IssueIntake
