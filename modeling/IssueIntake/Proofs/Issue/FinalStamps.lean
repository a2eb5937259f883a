import IssueIntake.Proofs.Calendar.Second
import IssueIntake.Proofs.Issue.Repair
/-!
# Final timestamps come last

The time of closing or of deletion that repair fills in is one second after the later of the times
of creation and of the last change, and comes after both of them. It is filled in wherever it is
missing, unless the later of the two lies in the last second that there is
(`final_stamps_come_last`).
-/

namespace IssueIntake.Issue

variable {i : Issue} {now : Instant} {s : Stamp}

/-- A timestamp that an issue has at its end. -/
def Stamp.IsFinal (s : Stamp) : Prop :=
  s = .closedAt ∨ s = .deletedAt

/-- A final timestamp is filled in where it is missing, with the second after the later of the other
two. -/
theorem lacks_of_filled {t : Instant} (final : s.IsFinal) (absent : i.stamp? s = none)
    (filled : (i.repair now).2.stamp? s = some t) :
    i.Lacks s ∧ (i.latest now).secondLater? = some t := by
  cases result : (i.repair now).1 with
  | error e =>
    rw [repair_snd_of_error result] at filled
    have same : (i.withTimes now).stamp? s = i.stamp? s := by rcases final with rfl | rfl <;> rfl
    rw [same, absent] at filled
    cases filled
  | ok repairs =>
    rw [repair_snd_of_ok result, stamp?_repaired] at filled
    rcases final with rfl | rfl
    · have absent : i.closedAt = none := absent
      simp only [stampAfter, absent, Option.none_or] at filled
      split at filled
      · next closed => exact ⟨⟨closed, absent⟩, filled⟩
      · cases filled
    · have absent : i.deletedAt = none := absent
      simp only [stampAfter, absent, Option.none_or] at filled
      split at filled
      · next tombstone => exact ⟨⟨tombstone, absent⟩, filled⟩
      · cases filled

/-- Repair that succeeds fills in what is missing. -/
theorem isSome_of_lacks {repairs : Repairs} (done : (i.repair now).1 = .ok repairs)
    (lacks : i.Lacks s) : ((i.repair now).2.stamp? s).isSome = true := by
  have complete := complete_of_repair done
  rw [repair_snd_of_ok done] at complete ⊢
  cases s with
  | closedAt => exact complete.closed lacks.1
  | deletedAt => exact complete.deleted lacks.1
  | createdAt | updatedAt => exact lacks.elim

/-- A final timestamp that repair fills in is one second after the later of the times of creation
and of the last change, where absent ones are the present, and it comes after both. It is filled in
wherever it is missing and repair succeeds; repair fails just if one is missing and the later of the
two times lies in the last second that there is. -/
theorem final_stamps_come_last (i : Issue) (now : Instant) :
    let created := i.createdAt.getD now
    let updated := i.updatedAt.getD now
    let latest := created.later updated
    let j := (i.repair now).2
    (j.createdAt = some created ∧ j.updatedAt = some updated) ∧
    (∀ s t, s.IsFinal → i.stamp? s = none → j.stamp? s = some t →
      t.IsSecondAfter latest ∧ created.Before t ∧ updated.Before t) ∧
    (∀ s, i.Lacks s → ¬ latest.InLastSecond → (j.stamp? s).isSome = true) ∧
    ∀ e, (i.repair now).1 = .error e ↔
      ∃ s, i.Lacks s ∧ latest.InLastSecond ∧ e = .timestampOutOfRange s latest := by
  intro created updated latest j
  have fails : ∀ e, (i.repair now).1 = .error e ↔
      ∃ s, i.Lacks s ∧ latest.InLastSecond ∧ e = .timestampOutOfRange s latest := by
    intro e
    rw [repair_fst_eq_error_iff, ← Instant.secondLater?_eq_none_iff]
    rfl
  refine ⟨i.repair_times now, fun s t final absent filled => ?_, fun s lacks room => ?_, fails⟩
  · obtain ⟨-, second⟩ := lacks_of_filled final absent filled
    have second := Instant.isSecondAfter_of_secondLater? second
    have last := Instant.not_later_before created updated
    exact ⟨second, second.before last.1, second.before last.2⟩
  · cases result : (i.repair now).1 with
    | ok repairs => exact isSome_of_lacks result lacks
    | error e =>
      obtain ⟨-, -, late, -⟩ := (fails e).1 result
      exact absurd late room

/-- An issue that was created in a leap second, at the end of a year and after its last change, is
closed in the first second of the next year. A tombstone from the leap second at the end of time
fails. -/
theorem final_stamps_come_last_leap_second :
    let leap : Instant := ⟨⟨2016, 12, 31, by decide, by decide, by decide⟩, 23, 59, 59, 1500000000,
      by decide, by decide, by decide, by decide, by decide⟩
    let before : Instant := ⟨leap.date, 23, 59, 59, 900000000, by decide, by decide, by decide,
      by decide, by decide⟩
    let after : Instant := ⟨⟨2017, 1, 1, by decide, by decide, by decide⟩, 0, 0, 0, 500000000,
      by decide, by decide, by decide, by decide, by decide⟩
    let last : Instant := { leap with date := ⟨262142, 12, 31, by decide, by decide, by decide⟩ }
    let closed := { Issue.new "bd-1" "T" with
      status := .closed
      createdAt := some leap
      updatedAt := some before }
    let late := { Issue.new "bd-2" "T" with status := .tombstone, createdAt := some last }
    (closed.stamp? .closedAt = none ∧ (closed.repair .epoch).2.stamp? .closedAt = some after) ∧
      (after.IsSecondAfter leap ∧ leap.Before after ∧ before.Before after) ∧
      (late.Lacks .deletedAt ∧ last.InLastSecond) ∧
      (late.repair .epoch).1 = .error (.timestampOutOfRange .deletedAt last) := by
  intro leap before after last closed late
  have filled : (closed.repair .epoch).2.stamp? .closedAt = some after := by decide +kernel
  have latest : (closed.createdAt.getD .epoch).later (closed.updatedAt.getD .epoch) = leap := by
    decide +kernel
  have endOfTime : (late.createdAt.getD .epoch).later (late.updatedAt.getD .epoch) = last := by
    decide +kernel
  have atTheEnd : last.InLastSecond :=
    ⟨⟨by decide +kernel, by decide +kernel, by decide +kernel⟩, by decide +kernel⟩
  obtain ⟨-, follows, -, -⟩ := final_stamps_come_last closed .epoch
  obtain ⟨-, -, -, fails⟩ := final_stamps_come_last late .epoch
  obtain ⟨second, created, updated⟩ := follows .closedAt after (.inl rfl) rfl filled
  rw [latest] at second
  rw [endOfTime] at fails
  exact ⟨⟨rfl, filled⟩, ⟨second, created, updated⟩, ⟨⟨rfl, rfl⟩, atTheEnd⟩,
    (fails _).2 ⟨.deletedAt, ⟨rfl, rfl⟩, atTheEnd, rfl⟩⟩

end IssueIntake.Issue
