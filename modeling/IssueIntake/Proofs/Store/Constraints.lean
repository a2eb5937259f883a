import IssueIntake.Calendar.Epoch
import IssueIntake.Proofs.Store.Books
/-!
# Validation and the rules of the tables

The length of a title, the range of a priority and the time of closing are checked twice: by
validation before an issue is stored, and by the tables on the row. What validation lets through
meets the rules of the tables, with one exception. Validation counts the characters of a title and
the database those before the first U+0000, so a title that begins with U+0000 is valid, and its row
is refused (`Tables.insert_validated`).
-/

namespace IssueIntake

variable {i repaired : Issue} {v : Vocabulary} {now : Instant} {repairs : Issue.Repairs}

/-- The rule that the row of a valid issue breaks, if it breaks one. -/
theorem IssueRow.brokenRule?_of_validate (repair : i.repair now = (.ok repairs, repaired))
    (valid : repaired.validate v = .ok ()) :
    (encode repaired).brokenRule? = if Unseen repaired.title then some .titleLength
      else if repaired.status = .custom "closed" then some .closing else none := by
  have prepared : i.prepare v now = (.ok (), repaired.withFingerprint) :=
    Issue.prepare_eq_ok_iff.2 ⟨repairs, repaired, repair, valid, rfl⟩
  have sound := Issue.Sound.ofPrepare prepared
  -- The fingerprint is under no rule.
  obtain ⟨hash, same⟩ := repaired.withFingerprint_frame
  have unruled : (encode repaired.withFingerprint).brokenRule? = (encode repaired).brokenRule? := by
    rw [same]
    rfl
  rw [← unruled, brokenRule?_encode sound, same]

namespace Tables

/-- A row is added unless the tables refuse it, and then nothing changes. -/
theorem insert_run (i : Issue) (t : Tables) : (insert i).run t =
    match refusal? i t with
    | some e => (.error e, t)
    | none => (.ok (), { t with issues := t.issues.insert i.id (.encode i) }) := by
  simp only [Call.run, insert, refusal?]
  cases (IssueRow.encode i).brokenRule? with
  | some rule => rfl
  | none => by_cases taken : t.issues.contains i.id = true <;> simp [taken]

/-- A valid issue with a new identifier is stored as it is, whatever its other texts and its status
are, unless its title begins with U+0000: then the rule on the length of titles refuses it and
nothing changes. -/
theorem insert_validated (t : Tables) (status : Status.ofName i.status.name = i.status)
    (repair : i.repair now = (.ok repairs, repaired)) (valid : repaired.validate v = .ok ())
    (new : t.issues.contains i.id = false) :
    (insert repaired).run t =
      if Unseen i.title then (.error (.database (.check .titleLength)), t)
      else (.ok (), { t with issues := t.issues.insert i.id (.encode repaired) }) := by
  have normal : i.status ≠ .custom "closed" := by
    intro spelled
    rw [spelled] at status
    exact absurd status (by decide)
  have unbroken := IssueRow.brokenRule?_of_validate repair valid
  -- Repair leaves the identifier, the title and the status as they are.
  obtain ⟨created, updated, closed, deleted, frame⟩ := i.repair_frame now
  rw [repair] at frame
  obtain rfl : repaired = _ := frame
  rw [if_neg normal] at unbroken
  rw [insert_run, refusal?, unbroken, new]
  by_cases unseen : Unseen i.title <;> simp [unseen]

/-- A closed issue whose title ends with U+0000 is stored. One whose title begins with it is
refused, though it is valid as well. -/
theorem insert_validated_closed :
    let ends := { Issue.new "bd-1" "T\x00" with status := .closed }
    let begins := { ends with title := "\x00T" }
    let repaired (i : Issue) := (i.repair .epoch).2
    ((repaired ends).validate ⟨[], []⟩ = .ok () ∧ (repaired begins).validate ⟨[], []⟩ = .ok ()) ∧
      (insert (repaired ends)).run empty = (.ok (),
        { empty with issues := empty.issues.insert "bd-1" (.encode (repaired ends)) }) ∧
      (insert (repaired begins)).run empty = (.error (.database (.check .titleLength)), empty) := by
  intro ends begins repaired
  have repair : ends.repair .epoch = (.ok ⟨true, true, true, false⟩, repaired ends) := by
    decide +kernel
  have repair' : begins.repair .epoch = (.ok ⟨true, true, true, false⟩, repaired begins) := by
    decide +kernel
  have valid : (repaired ends).validate ⟨[], []⟩ = .ok () := by decide +kernel
  have valid' : (repaired begins).validate ⟨[], []⟩ = .ok () := by decide +kernel
  exact ⟨⟨valid, valid'⟩,
    (insert_validated empty (by decide) repair valid rfl).trans (if_neg (by decide)),
    (insert_validated empty (by decide) repair' valid' rfl).trans (if_pos (by decide))⟩

end Tables

end IssueIntake
