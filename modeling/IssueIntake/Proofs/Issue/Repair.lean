import Mathlib.Control.Monad.Basic
import IssueIntake.Calendar.Epoch
import IssueIntake.Proofs.Issue.Prepared
/-!
# What repair does

Repair that succeeds leaves an issue to which nothing is missing (`complete_of_repair`), and such an
issue is left as it is (`Complete.repair`). Repair that fails has filled in the times of creation
and of the last change and nothing else (`repair_snd_of_error`), so it fails again for the same
reason. Whatever the clock says then, repairing once is enough (`repair_idempotent`).
-/

namespace IssueIntake.Issue

variable {i : Issue} {now : Instant}

/-! ## Timestamps after repair -/

/-- An issue has to have a final timestamp and lacks it. -/
def Lacks (i : Issue) : Stamp → Prop
  | .closedAt => i.status = .closed ∧ i.closedAt = none
  | .deletedAt => i.status = .tombstone ∧ i.deletedAt = none
  | .createdAt | .updatedAt => False

/-- A timestamp of an issue once those that it lacks are filled in. -/
def stampAfter (i : Issue) (now : Instant) : Stamp → Option Instant
  | .createdAt => some (i.createdAt.getD now)
  | .updatedAt => some (i.updatedAt.getD now)
  | .closedAt =>
    if i.status = .closed then i.closedAt.or (i.latest now).secondLater? else i.closedAt
  | .deletedAt =>
    if i.status = .tombstone then i.deletedAt.or (i.latest now).secondLater? else i.deletedAt

/-- An issue with the timestamps that it has after repair. -/
def repaired (i : Issue) (now : Instant) : Issue :=
  { i with
    createdAt := i.stampAfter now .createdAt
    updatedAt := i.stampAfter now .updatedAt
    closedAt := i.stampAfter now .closedAt
    deletedAt := i.stampAfter now .deletedAt }

theorem stamp?_repaired (i : Issue) (now : Instant) (s : Stamp) :
    (i.repaired now).stamp? s = i.stampAfter now s := by
  cases s <;> rfl

/-! ## Final timestamps -/

section Final

variable {stamp : Stamp} {due : Bool} {present filled : Option Instant} {latest : Instant}

theorem finalStamp_eq_none (h : due = true → present.isSome = true) (latest : Instant) :
    finalStamp stamp due present latest = .ok none := by
  unfold finalStamp
  cases due with
  | false => rfl
  | true =>
    obtain ⟨t, rfl⟩ := Option.isSome_iff_exists.1 (h rfl)
    rfl

/-- What is filled in for a final timestamp is one second after the later of the other two. -/
theorem or_finalStamp (h : finalStamp stamp due present latest = .ok filled) :
    present.or filled = if due = true then present.or latest.secondLater? else present := by
  unfold finalStamp at h
  cases due with
  | false =>
    cases h
    simp
  | true =>
    cases present with
    | some t => rfl
    | none =>
      cases hl : latest.secondLater? with
      | none => simp [hl] at h
      | some t =>
        simp only [hl, Bool.true_and, Option.isNone_none, if_true] at h
        cases h
        rfl

/-- A final timestamp is filled in just if it was absent and is there afterwards. -/
theorem isSome_of_finalStamp (h : finalStamp stamp due present latest = .ok filled) :
    filled.isSome = true ↔ present = none ∧ (present.or filled).isSome = true := by
  cases present with
  | none => simp
  | some t =>
    rw [finalStamp_eq_none fun _ => rfl] at h
    cases h
    simp

theorem finalStamp_eq_error_iff {e : Violation} : finalStamp stamp due present latest = .error e ↔
    (due = true ∧ present = none) ∧ latest.secondLater? = none ∧
      e = .timestampOutOfRange stamp latest := by
  unfold finalStamp
  by_cases needed : due = true ∧ present = none
  · obtain ⟨rfl, rfl⟩ := needed
    cases latest.secondLater? <;> simp [eq_comm]
  · have notDue : (due && present.isNone) = false := by
      rw [Bool.eq_false_iff, ne_eq, Bool.and_eq_true, Option.isNone_iff_eq_none]
      exact needed
    simp [notDue, needed]

/-- A final timestamp that is due is there afterwards. -/
theorem isSome_or_of_finalStamp (h : finalStamp stamp due present latest = .ok filled)
    (needed : due = true) : (present.or filled).isSome = true := by
  cases present with
  | some t => rfl
  | none =>
    rw [or_finalStamp h, if_pos needed, Option.none_or, Option.isSome_iff_ne_none]
    intro none
    rw [finalStamp_eq_error_iff.2 ⟨⟨needed, rfl⟩, none, rfl⟩] at h
    cases h

end Final

/-! ## Repair -/

/-- Repair fails at the first final timestamp that cannot be filled in. -/
theorem repair_fst (i : Issue) (now : Instant) : (i.repair now).1 = (do
    let closing ← finalStamp .closedAt (i.status == .closed) i.closedAt (i.latest now)
    let deletion ← finalStamp .deletedAt (i.status == .tombstone) i.deletedAt (i.latest now)
    return ⟨i.createdAt.isNone, i.updatedAt.isNone, closing.isSome, deletion.isSome⟩) := by
  unfold repair
  dsimp only
  cases finalStamp .closedAt (i.status == .closed) i.closedAt (i.latest now) with
  | error e => rfl
  | ok closing =>
    cases finalStamp .deletedAt (i.status == .tombstone) i.deletedAt (i.latest now) <;> rfl

/-- Repair that succeeds fills in the timestamps that are missing. -/
theorem repair_snd_of_ok {repairs : Repairs} (h : (i.repair now).1 = .ok repairs) :
    (i.repair now).2 = i.repaired now := by
  unfold repair at h ⊢
  dsimp only at h ⊢
  cases hc : finalStamp .closedAt (i.status == .closed) i.closedAt (i.latest now) with
  | error e => simp [hc] at h
  | ok closing =>
    cases hd : finalStamp .deletedAt (i.status == .tombstone) i.deletedAt (i.latest now) with
    | error e => simp [hc, hd] at h
    | ok deletion =>
      have closed := or_finalStamp hc
      have deleted := or_finalStamp hd
      simp only [beq_iff_eq] at closed deleted
      simp only [withTimes, closed, deleted]
      rfl

/-- Repair succeeds if both final timestamps can be filled in, and says what it has filled in. -/
theorem repair_fst_eq_ok_iff {repairs : Repairs} : (i.repair now).1 = .ok repairs ↔
    ∃ closing deletion,
      finalStamp .closedAt (i.status == .closed) i.closedAt (i.latest now) = .ok closing ∧
      finalStamp .deletedAt (i.status == .tombstone) i.deletedAt (i.latest now) = .ok deletion ∧
      repairs = ⟨i.createdAt.isNone, i.updatedAt.isNone, closing.isSome, deletion.isSome⟩ := by
  rw [repair_fst]
  cases finalStamp .closedAt (i.status == .closed) i.closedAt (i.latest now) with
  | error e => simp [bind, Except.bind]
  | ok closing =>
    cases finalStamp .deletedAt (i.status == .tombstone) i.deletedAt (i.latest now) with
    | error e => simp [bind, Except.bind]
    | ok deletion => simp [bind, Except.bind, pure, Except.pure, eq_comm]

/-- A tombstone is not closed, so that no time of closing is filled in. -/
theorem finalStamp_closedAt_of_tombstone (tombstone : i.status = .tombstone) (latest : Instant) :
    finalStamp .closedAt (i.status == .closed) i.closedAt latest = .ok none := by
  refine finalStamp_eq_none (fun due => ?_) latest
  rw [tombstone] at due
  cases due

/-- Repair fails if a final timestamp is missing that has no time left. -/
theorem repair_fst_eq_error_iff {e : Violation} : (i.repair now).1 = .error e ↔
    ∃ s, i.Lacks s ∧ (i.latest now).secondLater? = none ∧
      e = .timestampOutOfRange s (i.latest now) := by
  have closing : ∀ {e},
      finalStamp .closedAt (i.status == .closed) i.closedAt (i.latest now) = .error e ↔
        i.Lacks .closedAt ∧ (i.latest now).secondLater? = none ∧
          e = .timestampOutOfRange .closedAt (i.latest now) := by
    simp [finalStamp_eq_error_iff, Lacks]
  have deletion : ∀ {e},
      finalStamp .deletedAt (i.status == .tombstone) i.deletedAt (i.latest now) = .error e ↔
        i.Lacks .deletedAt ∧ (i.latest now).secondLater? = none ∧
          e = .timestampOutOfRange .deletedAt (i.latest now) := by
    simp [finalStamp_eq_error_iff, Lacks]
  rw [repair_fst]
  constructor
  · intro h
    cases hc : finalStamp .closedAt (i.status == .closed) i.closedAt (i.latest now) with
    | error cause =>
      rw [hc] at h
      cases h
      exact ⟨.closedAt, closing.1 hc⟩
    | ok filled =>
      cases hd : finalStamp .deletedAt (i.status == .tombstone) i.deletedAt (i.latest now) with
      | error cause =>
        rw [hc, hd] at h
        cases h
        exact ⟨.deletedAt, deletion.1 hd⟩
      | ok deleted =>
        rw [hc, hd] at h
        cases h
  · rintro ⟨s, lacks, late⟩
    cases s with
    | closedAt =>
      rw [closing.2 ⟨lacks, late⟩]
      rfl
    | deletedAt =>
      rw [finalStamp_closedAt_of_tombstone lacks.1, deletion.2 ⟨lacks, late⟩]
      rfl
    | createdAt | updatedAt => exact lacks.elim

/-- Repair that fails has filled in the times of creation and of the last change. -/
theorem repair_snd_of_error {e : Violation} (h : (i.repair now).1 = .error e) :
    (i.repair now).2 = i.withTimes now := by
  unfold repair at h ⊢
  dsimp only at h ⊢
  cases hc : finalStamp .closedAt (i.status == .closed) i.closedAt (i.latest now) with
  | error cause => rfl
  | ok closing =>
    cases hd : finalStamp .deletedAt (i.status == .tombstone) i.deletedAt (i.latest now) with
    | ok deletion => simp [hc, hd] at h
    | error cause =>
      obtain ⟨⟨tombstone, -⟩, -⟩ := finalStamp_eq_error_iff.1 hd
      rw [finalStamp_closedAt_of_tombstone (eq_of_beq tombstone)] at hc
      cases hc
      simp only [withTimes, Option.or_none]

/-! ## Repair of an issue that is complete -/

/-- Nothing is missing that repair would fill in. -/
structure Complete (i : Issue) : Prop where
  created : i.createdAt.isSome = true
  updated : i.updatedAt.isSome = true
  closed : i.status = .closed → i.closedAt.isSome = true
  deleted : i.status = .tombstone → i.deletedAt.isSome = true

/-- Nothing has been filled in. -/
def Repairs.nothing : Repairs :=
  ⟨false, false, false, false⟩

theorem Complete.withTimes (h : i.Complete) (now : Instant) : i.withTimes now = i := by
  obtain ⟨created, hc⟩ := Option.isSome_iff_exists.1 h.created
  obtain ⟨updated, hu⟩ := Option.isSome_iff_exists.1 h.updated
  rw [Issue.withTimes, hc, hu, Option.getD_some, Option.getD_some, ← hc, ← hu]

/-- A complete issue is left as it is. -/
theorem Complete.repair (h : i.Complete) (now : Instant) : i.repair now = (.ok .nothing, i) := by
  have closing : finalStamp .closedAt (i.status == .closed) i.closedAt (i.latest now) = .ok none :=
    finalStamp_eq_none (fun due => h.closed (eq_of_beq due)) _
  have deletion :
      finalStamp .deletedAt (i.status == .tombstone) i.deletedAt (i.latest now) = .ok none :=
    finalStamp_eq_none (fun due => h.deleted (eq_of_beq due)) _
  have created : i.createdAt.isNone = false := by simp [h.created]
  have updated : i.updatedAt.isNone = false := by simp [h.updated]
  simp only [Issue.repair, closing, deletion, h.withTimes, Option.or_none, created, updated]
  rfl

/-- Repair that succeeds leaves nothing missing. -/
theorem complete_of_repair {repairs : Repairs} (h : (i.repair now).1 = .ok repairs) :
    (i.repair now).2.Complete := by
  obtain ⟨closing, deletion, hc, hd, -⟩ := repair_fst_eq_ok_iff.1 h
  have closed := isSome_or_of_finalStamp hc
  have deleted := isSome_or_of_finalStamp hd
  simp only [or_finalStamp hc, beq_iff_eq] at closed
  simp only [or_finalStamp hd, beq_iff_eq] at deleted
  rw [repair_snd_of_ok h]
  exact ⟨rfl, rfl, closed, deleted⟩

/-- Repair that fails has changed nothing that it fails for. -/
theorem repair_withTimes_of_error {e : Violation} (h : (i.repair now).1 = .error e)
    (again : Instant) : (i.withTimes now).repair again = (.error e, i.withTimes now) := by
  have lacks : ∀ s, (i.withTimes now).Lacks s ↔ i.Lacks s := fun s => by cases s <;> rfl
  have latest : (i.withTimes now).latest again = i.latest now := rfl
  have failed : ((i.withTimes now).repair again).1 = .error e := by
    simpa only [repair_fst_eq_error_iff, lacks, latest] using h
  exact Prod.ext failed (repair_snd_of_error failed)

/-! ## Repairing twice -/

/-- Whether a timestamp has been filled in. -/
def Repairs.filled (r : Repairs) : Stamp → Bool
  | .createdAt => r.createdAt
  | .updatedAt => r.updatedAt
  | .closedAt => r.closedAt
  | .deletedAt => r.deletedAt

/-- Repair keeps every timestamp that is there, also when it fails. -/
theorem repair_keeps {s : Stamp} {t : Instant} (there : i.stamp? s = some t) (now : Instant) :
    (i.repair now).2.stamp? s = some t := by
  cases result : (i.repair now).1 with
  | error e =>
    rw [repair_snd_of_error result]
    cases s <;> simp_all [withTimes, stamp?]
  | ok repairs =>
    rw [repair_snd_of_ok result, stamp?_repaired]
    cases s <;> simp_all [stampAfter, stamp?]

/-- The flags say which timestamps were missing and are there now. -/
theorem filled_iff {repairs : Repairs} (h : (i.repair now).1 = .ok repairs) (s : Stamp) :
    repairs.filled s = true ↔
      i.stamp? s = none ∧ ((i.repair now).2.stamp? s).isSome = true := by
  obtain ⟨closing, deletion, hc, hd, rfl⟩ := repair_fst_eq_ok_iff.1 h
  have closed := isSome_of_finalStamp hc
  have deleted := isSome_of_finalStamp hd
  simp only [or_finalStamp hc, beq_iff_eq] at closed
  simp only [or_finalStamp hd, beq_iff_eq] at deleted
  rw [repair_snd_of_ok h, stamp?_repaired]
  cases s with
  | createdAt => simp [Repairs.filled, stamp?, stampAfter]
  | updatedAt => simp [Repairs.filled, stamp?, stampAfter]
  | closedAt => exact closed
  | deletedAt => exact deleted

/-- Repair changes nothing but timestamps that are missing, also when it fails, and if it succeeds
its flags say which of them it has filled in. Another repair, at whatever time, changes nothing and
fills in nothing, or fails as the first one did. -/
theorem repair_idempotent (i : Issue) (now : Instant) :
    (∃ created updated closed deleted, (i.repair now).2 = { i with
      createdAt := created
      updatedAt := updated
      closedAt := closed
      deletedAt := deleted }) ∧
    (∀ s t, i.stamp? s = some t → (i.repair now).2.stamp? s = some t) ∧
    (∀ repairs, (i.repair now).1 = .ok repairs → ∀ s, repairs.filled s = true ↔
      i.stamp? s = none ∧ ((i.repair now).2.stamp? s).isSome = true) ∧
    ∀ again, (i.repair now).2.repair again =
      ((i.repair now).1.map fun _ => .nothing, (i.repair now).2) := by
  refine ⟨i.repair_frame now, fun s t there => repair_keeps there now,
    fun repairs h => filled_iff h, fun again => ?_⟩
  cases result : (i.repair now).1 with
  | ok repairs => exact (complete_of_repair result).repair again
  | error e =>
    rw [repair_snd_of_error result]
    exact repair_withTimes_of_error result again

/-- A closed issue that has only the time of its creation is repaired once, and a tombstone that was
made at the end of time fails for good. -/
theorem repair_idempotent_closed_and_late :
    let last : Instant := ⟨⟨262142, 12, 31, by decide, by decide, by decide⟩, 23, 59, 59, 999999999,
      by decide, by decide, by decide, by decide, by decide⟩
    let closed := { Issue.new "bd-1" "T" with status := .closed, createdAt := some .epoch }
    let late := { Issue.new "bd-2" "T" with status := .tombstone, createdAt := some last }
    let done := closed.repair .epoch
    let failed := late.repair .epoch
    (closed.stamp? .createdAt = some .epoch ∧ done.2.stamp? .createdAt = some .epoch) ∧
      (done.1 = .ok ⟨false, true, true, false⟩ ∧
        closed.stamp? .closedAt = none ∧ (done.2.stamp? .closedAt).isSome = true) ∧
      done.2.repair last = (.ok .nothing, done.2) ∧
      failed.1 = .error (.timestampOutOfRange .deletedAt last) ∧
      failed.2.repair last = (.error (.timestampOutOfRange .deletedAt last), failed.2) := by
  intro last closed late done failed
  have filledIn : done.1 = .ok ⟨false, true, true, false⟩ := by decide +kernel
  have noTime : failed.1 = .error (.timestampOutOfRange .deletedAt last) := by decide +kernel
  obtain ⟨-, kept, flags, settled⟩ := repair_idempotent closed .epoch
  obtain ⟨-, -, -, stays⟩ := repair_idempotent late .epoch
  refine ⟨⟨rfl, kept .createdAt _ rfl⟩, ⟨filledIn, (flags _ filledIn .closedAt).1 rfl⟩, ?_,
    noTime, ?_⟩
  · exact (settled last).trans (by rw [filledIn]; rfl)
  · exact (stays last).trans (by rw [noTime]; rfl)

end IssueIntake.Issue
