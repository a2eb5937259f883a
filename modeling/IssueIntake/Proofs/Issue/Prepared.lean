import IssueIntake.Ingest.Create
/-!
# Prepared issues

What is true of an issue once it has been repaired, has passed validation and has its fingerprint.
`Issue.Sound` lists the rules that such an issue meets; `Issue.Sound.ofPrepare` says that
preparation establishes them, and `Issue.prepare_frame` what it leaves as it was.
-/

namespace IssueIntake

/-- A check and then another step succeed together if both of them do. -/
theorem except_then_eq_ok_iff {ε β : Type} {check : Except ε Unit} {next : Except ε β} {b : β} :
    (check >>= fun _ => next) = .ok b ↔ check = .ok () ∧ next = .ok b := by
  cases check <;> simp [bind, Except.bind]

namespace Issue

/-! ## Repair -/

/-- Repair touches no field but the four timestamps. -/
theorem repair_frame (i : Issue) (now : Instant) : ∃ created updated closed deleted,
    (i.repair now).2 = { i with
      createdAt := created
      updatedAt := updated
      closedAt := closed
      deletedAt := deleted } := by
  unfold repair withTimes
  dsimp only
  cases finalStamp .closedAt (i.status == .closed) i.closedAt (i.latest now) with
  | error e => exact ⟨_, _, _, _, rfl⟩
  | ok closing =>
    cases finalStamp .deletedAt (i.status == .tombstone) i.deletedAt (i.latest now) with
    | error e => exact ⟨_, _, _, _, rfl⟩
    | ok deletion => exact ⟨_, _, _, _, rfl⟩

/-- After repair the times of creation and of the last change are there, even if it fails. -/
theorem repair_times (i : Issue) (now : Instant) :
    (i.repair now).2.createdAt = some (i.createdAt.getD now) ∧
      (i.repair now).2.updatedAt = some (i.updatedAt.getD now) := by
  unfold repair withTimes
  dsimp only
  cases finalStamp .closedAt (i.status == .closed) i.closedAt (i.latest now) with
  | error e => exact ⟨rfl, rfl⟩
  | ok closing =>
    cases finalStamp .deletedAt (i.status == .tombstone) i.deletedAt (i.latest now) <;>
      exact ⟨rfl, rfl⟩

/-! ## Validation -/

theorem require_eq_ok_iff {ok : Bool} {violation : Violation} :
    require ok violation = .ok () ↔ ok = true := by
  cases ok <;> simp [require]

theorem isStorable_iff {t : Instant} :
    isStorable t = true ↔ 0 ≤ t.date.year ∧ t.date.year ≤ 9999 := by
  simp [isStorable]

theorem checkStamp_eq_ok_iff {i : Issue} {s : Stamp} :
    i.checkStamp s = .ok () ↔ ∀ t, i.stamp? s = some t → isStorable t = true := by
  unfold checkStamp
  cases i.stamp? s <;> simp [require_eq_ok_iff]

theorem checkClosing_eq_ok_iff {i : Issue} : i.checkClosing = .ok () ↔
    (i.status = .closed → i.closedAt.isSome = true) ∧
      (i.closedAt.isSome = true → i.status = .closed ∨ i.status = .tombstone) := by
  unfold checkClosing
  cases i.status <;> cases i.closedAt <;> simp

theorem checkDeletion_eq_ok_iff {i : Issue} : i.checkDeletion = .ok () ↔
    (i.deletedAt.isSome = true ↔ i.status = .tombstone) := by
  unfold checkDeletion
  cases i.status <;> cases i.deletedAt <;> simp

/-- The rules that make an issue valid. -/
theorem validate_eq_ok_iff {i : Issue} {v : Vocabulary} : i.validate v = .ok () ↔
    (1 ≤ i.title.length ∧ i.title.length ≤ 500) ∧ (0 ≤ i.priority ∧ i.priority ≤ 4) ∧
      v.allowsStatus i.status = true ∧ v.allowsType i.issueType = true ∧
      (∀ s t, i.stamp? s = some t → isStorable t = true) ∧
      i.checkClosing = .ok () ∧ i.checkDeletion = .ok () := by
  have stamps : (∀ s t, i.stamp? s = some t → isStorable t = true) ↔
      i.checkStamp .createdAt = .ok () ∧ i.checkStamp .updatedAt = .ok () ∧
        i.checkStamp .closedAt = .ok () ∧ i.checkStamp .deletedAt = .ok () := by
    simp only [checkStamp_eq_ok_iff]
    exact ⟨fun h => ⟨h _, h _, h _, h _⟩, fun ⟨h₁, h₂, h₃, h₄⟩ s => by cases s <;> assumption⟩
  simp only [validate, except_then_eq_ok_iff, require_eq_ok_iff, stamps]
  simp [Nat.one_le_iff_ne_zero, and_assoc]

/-! ## Preparation -/

theorem withFingerprint_frame (i : Issue) :
    ∃ hash, i.withFingerprint = { i with contentHash := hash } := by
  unfold withFingerprint
  split <;> exact ⟨_, rfl⟩

/-- Preparation touches no field but the timestamps and the fingerprint, also when it fails. -/
theorem prepare_frame (i : Issue) (v : Vocabulary) (now : Instant) :
    ∃ created updated closed deleted hash, (i.prepare v now).2 = { i with
      contentHash := hash
      createdAt := created
      updatedAt := updated
      closedAt := closed
      deletedAt := deleted } := by
  obtain ⟨created, updated, closed, deleted, hj⟩ := i.repair_frame now
  unfold prepare
  rcases hr : i.repair now with ⟨e | repairs, j⟩ <;> rw [hr] at hj <;> subst hj
  · exact ⟨_, _, _, _, _, rfl⟩
  · dsimp only
    cases validate _ v with
    | error e => exact ⟨_, _, _, _, _, rfl⟩
    | ok =>
      obtain ⟨hash, hj⟩ := withFingerprint_frame { i with
        createdAt := created
        updatedAt := updated
        closedAt := closed
        deletedAt := deleted }
      exact ⟨_, _, _, _, _, hj⟩

/-- What holds of every issue that is ready to be stored. -/
structure Sound (i : Issue) : Prop where
  created : i.createdAt.isSome = true
  updated : i.updatedAt.isSome = true
  years : ∀ s t, i.stamp? s = some t → 0 ≤ t.date.year ∧ t.date.year ≤ 9999
  title : 1 ≤ i.title.length ∧ i.title.length ≤ 500
  priority : 0 ≤ i.priority ∧ i.priority ≤ 4
  fingerprinted : i.contentHash ≠ ""
  closed : i.status = .closed → i.closedAt.isSome = true
  notClosed : i.closedAt.isSome = true → i.status = .closed ∨ i.status = .tombstone
  deleted : i.deletedAt.isSome = true ↔ i.status = .tombstone

theorem fingerprint_length (i : Issue) : i.fingerprint.length = 64 := by
  simp [fingerprint, NamedField.hash, Sha256.hexDigest, Sha256.digest, Sha256.bigEndian,
    Sha256.hexByte]

theorem withFingerprint_contentHash_ne (i : Issue) : i.withFingerprint.contentHash ≠ "" := by
  unfold withFingerprint
  split
  · intro h
    have := i.fingerprint_length
    simp_all
  · next h => simpa using h

/-- An issue that has been prepared is sound. -/
theorem Sound.ofPrepare {i j : Issue} {v : Vocabulary} {now : Instant}
    (h : i.prepare v now = (.ok (), j)) : j.Sound := by
  obtain ⟨repairs, repaired, hr, hv, rfl⟩ := prepare_eq_ok_iff.1 h
  obtain ⟨title, priority, -, -, years, closing, deletion⟩ := validate_eq_ok_iff.1 hv
  obtain ⟨created, updated⟩ : repaired.createdAt = some (i.createdAt.getD now) ∧
      repaired.updatedAt = some (i.updatedAt.getD now) := by
    simpa only [hr] using i.repair_times now
  have fingerprinted := repaired.withFingerprint_contentHash_ne
  obtain ⟨hash, hj⟩ := repaired.withFingerprint_frame
  rw [hj] at fingerprinted ⊢
  exact {
    created := by simp [created]
    updated := by simp [updated]
    years := fun s t hs => isStorable_iff.1 (years s t (by cases s <;> exact hs))
    title := title
    priority := priority
    fingerprinted := fingerprinted
    closed := (checkClosing_eq_ok_iff.1 closing).1
    notClosed := (checkClosing_eq_ok_iff.1 closing).2
    deleted := checkDeletion_eq_ok_iff.1 deletion }

/-- The identifier is none of the things that make an issue sound. -/
theorem Sound.withId {i : Issue} (h : i.Sound) (id : String) : ({ i with id := id }).Sound where
  created := h.created
  updated := h.updated
  years s t hs := h.years s t (by cases s <;> exact hs)
  title := h.title
  priority := h.priority
  fingerprinted := h.fingerprinted
  closed := h.closed
  notClosed := h.notClosed
  deleted := h.deleted

end Issue

end IssueIntake
