import Mathlib.Control.Monad.Basic
import IssueIntake.Proofs.Store.Rows
/-!
# The years that can be stored

The years that validation admits are those whose instants are read back from a column of
timestamps (`checked_iff_read_back`): in four digits from 0 to 9999, leap seconds among them. The
other years are written with a sign, and then nothing is read back.
-/

namespace IssueIntake

/-- A column of timestamps holds an instant that validation admits, or gives a failure. -/
theorem IssueRow.readOptionalStamp_stored (position : Nat) (t : Instant) :
    readOptionalStamp position (some (t.text .stored)) =
      if Issue.isStorable t then .ok (some t)
      else .error (.conversion position (.instant .invalid)) := by
  rw [readOptionalStamp, readStamp_stored]
  split <;> rfl

/-- A timestamp of an issue passes the check of its year if and only if it is read back from its
stored form, and then it is the same instant. -/
theorem checked_iff_read_back (t : Instant) (position : Nat) :
    let read := IssueRow.readOptionalStamp position (some (t.text .stored))
    (∀ (i : Issue) (s : Issue.Stamp), i.stamp? s = some t →
      (i.checkStamp s = .ok () ↔ ∃ u, read = .ok u)) ∧
      ∀ u, read = .ok u → u = some t := by
  intro read
  have stored : read = if Issue.isStorable t then .ok (some t)
      else .error (.conversion position (.instant .invalid)) :=
    IssueRow.readOptionalStamp_stored position t
  rw [stored]
  refine ⟨fun i s there => ?_, fun u h => ?_⟩
  · have checked : i.checkStamp s = .ok () ↔ Issue.isStorable t = true := by
      rw [Issue.checkStamp_eq_ok_iff, there]
      simp
    rw [checked]
    by_cases storable : Issue.isStorable t = true <;> simp [storable]
  · by_cases storable : Issue.isStorable t = true
    · rw [if_pos storable] at h
      exact (Except.ok.inj h).symm
    · rw [if_neg storable] at h
      cases h

/-- The last instant of the year 9999, in a leap second, is admitted and read back; the next one is
refused and cannot be read, and so is the last one before the year 0. -/
theorem checked_iff_read_back_last_leap_second :
    let last : Instant := ⟨⟨9999, 12, 31, by decide, by decide, by decide⟩, 23, 59, 59, 1999999999,
      by decide, by decide, by decide, by decide, by decide⟩
    let next : Instant := ⟨⟨10000, 1, 1, by decide, by decide, by decide⟩, 0, 0, 0, 0,
      by decide, by decide, by decide, by decide, by decide⟩
    let early : Instant := { last with date := ⟨-1, 12, 31, by decide, by decide, by decide⟩ }
    let i := { Issue.new "bd-1" "T" with
      createdAt := some early
      updatedAt := some last
      closedAt := some next }
    (i.stamp? .updatedAt = some last ∧ i.checkStamp .updatedAt = .ok () ∧
        IssueRow.readOptionalStamp 14 (some "9999-12-31T23:59:60.999999999Z") = .ok (some last)) ∧
      (i.stamp? .closedAt = some next ∧ i.checkStamp .closedAt ≠ .ok () ∧
        ¬ ∃ u, IssueRow.readOptionalStamp 15 (some "+10000-01-01T00:00:00.000000000Z") = .ok u) ∧
      (i.stamp? .createdAt = some early ∧ i.checkStamp .createdAt ≠ .ok () ∧
        ¬ ∃ u, IssueRow.readOptionalStamp 13 (some "-0001-12-31T23:59:60.999999999Z") = .ok u) := by
  intro last next early i
  have lastText : last.text .stored = "9999-12-31T23:59:60.999999999Z" := by decide +kernel
  have nextText : next.text .stored = "+10000-01-01T00:00:00.000000000Z" := by decide +kernel
  have earlyText : early.text .stored = "-0001-12-31T23:59:60.999999999Z" := by decide +kernel
  have admitted : i.checkStamp .updatedAt = .ok () := by decide +kernel
  have refused : i.checkStamp .closedAt ≠ .ok () := by decide +kernel
  have refused' : i.checkStamp .createdAt ≠ .ok () := by decide +kernel
  obtain ⟨lastRead, same⟩ := checked_iff_read_back last 14
  obtain ⟨nextRead, -⟩ := checked_iff_read_back next 15
  obtain ⟨earlyRead, -⟩ := checked_iff_read_back early 13
  obtain ⟨u, read⟩ := (lastRead i .updatedAt rfl).1 admitted
  rw [same u read, lastText] at read
  rw [← nextText, ← earlyText]
  exact ⟨⟨rfl, admitted, read⟩, ⟨rfl, refused, mt (nextRead i .closedAt rfl).2 refused⟩,
    ⟨rfl, refused', mt (earlyRead i .createdAt rfl).2 refused'⟩⟩

end IssueIntake
