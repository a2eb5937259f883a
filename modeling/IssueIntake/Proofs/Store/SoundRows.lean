import IssueIntake.Proofs.Store.Books
/-!
# Sound rows

What the columns of a row of the table of issues have in common, whatever issue was stored in it
(`IssueRow.Sound`). The row of a sound issue is sound, if it breaks none of the rules of the table
(`IssueRow.Sound.encode`). That a tombstone has the time of its deletion is not among them: a row
holds the name of a status, and a custom status may have the name of a built-in one
(`IssueRow.deletedAt_isSome_encode_iff`).
-/

namespace IssueIntake

namespace IssueRow

/-- An instant as it is kept, of the years that can be read again. -/
def IsStamp (s : String) : Prop :=
  ∃ t : Instant, (0 ≤ t.date.year ∧ t.date.year ≤ 9999) ∧ s = t.text .stored

/-- What holds of the columns of every row that is stored. -/
structure Sound (r : IssueRow) : Prop where
  created : IsStamp r.createdAt
  updated : IsStamp r.updatedAt
  closing : ∀ s, r.closedAt = some s → IsStamp s
  deletion : ∀ s, r.deletedAt = some s → IsStamp s
  title : 1 ≤ r.title.length ∧ r.title.length ≤ 500
  priority : 0 ≤ r.priority ∧ r.priority ≤ 4
  fingerprinted : r.contentHash ≠ ""
  closed : r.status = "closed" → r.closedAt.isSome = true
  notClosed : r.closedAt.isSome = true → r.status = "closed" ∨ r.status = "tombstone"
  deleted : r.deletedAt.isSome = true → r.status = "tombstone"

variable {i : Issue}

/-- A timestamp of a sound issue is kept as one. -/
theorem isStamp_text (sound : i.Sound) {s : Issue.Stamp} {t : Instant} (h : i.stamp? s = some t) :
    IsStamp (t.text .stored) :=
  ⟨t, sound.years s t h, rfl⟩

/-- A timestamp that a sound issue has is kept as one. -/
theorem isStamp_stampText (sound : i.Sound) {s : Issue.Stamp}
    (there : (i.stamp? s).isSome = true) : IsStamp (stampText (i.stamp? s)) := by
  obtain ⟨t, ht⟩ := Option.isSome_iff_exists.1 there
  rw [ht]
  exact isStamp_text sound ht

/-- A timestamp that a sound issue may lack is kept as one, if it is there. -/
theorem isStamp_of_map (sound : i.Sound) {s : Issue.Stamp} {text : String}
    (h : (i.stamp? s).map (·.text .stored) = some text) : IsStamp text := by
  obtain ⟨t, ht, rfl⟩ := Option.map_eq_some_iff.1 h
  exact isStamp_text sound ht

/-- The row of a sound issue is sound if it breaks no rule of the table. What the table asks of
closing it asks of the columns, so nothing need be known of the issue there. -/
theorem Sound.encode (sound : i.Sound) (unbroken : (IssueRow.encode i).brokenRule? = none) :
    (IssueRow.encode i).Sound := by
  have closing : (IssueRow.encode i).meets .closing = true := by
    have met := List.find?_eq_none.1 unbroken .closing (by simp)
    simpa using met
  simp only [meets, Bool.or_eq_true, Bool.and_eq_true, beq_iff_eq, bne_iff_ne] at closing
  refine {
    created := isStamp_stampText (s := .createdAt) sound sound.created
    updated := isStamp_stampText (s := .updatedAt) sound sound.updated
    closing := fun s h => isStamp_of_map (s := .closedAt) sound h
    deletion := fun s h => isStamp_of_map (s := .deletedAt) sound h
    title := sound.title
    priority := sound.priority
    fingerprinted := sound.fingerprinted
    closed := ?_
    notClosed := ?_
    deleted := ?_ }
  · intro closed
    rcases closing with (⟨-, timed⟩ | dead) | ⟨⟨other, -⟩, -⟩
    · exact timed
    · exact absurd (closed.symm.trans dead) (by decide)
    · exact absurd closed other
  · intro timed
    rcases closing with (⟨closed, -⟩ | dead) | ⟨-, untimed⟩
    · exact .inl closed
    · exact .inr dead
    · rw [Option.isNone_iff_eq_none.1 untimed] at timed
      cases timed
  · intro timed
    have dead := sound.deleted.1 (by simpa [IssueRow.encode] using timed)
    simp [IssueRow.encode, dead, Status.name]

/-- The row of a sound issue has a time of deletion just if it is spelled like a tombstone, unless
the issue has a custom status that is spelled so: then, and only then, the time is missing. -/
theorem deletedAt_isSome_encode_iff (sound : i.Sound) :
    ((IssueRow.encode i).deletedAt.isSome = true ↔ (IssueRow.encode i).status = "tombstone") ↔
      i.status ≠ .custom "tombstone" := by
  have timed : (IssueRow.encode i).deletedAt.isSome = true ↔ i.status = .tombstone := by
    simpa [IssueRow.encode] using sound.deleted
  have spelled : (IssueRow.encode i).status = i.status.name := rfl
  rw [timed, spelled]
  cases i.status with
  | custom name => simp [Status.name]
  | tombstone => simp [Status.name]
  | _ => decide

end IssueRow

end IssueIntake
