import IssueIntake.Proofs.Event.Payload
import IssueIntake.Proofs.Issue.Fingerprint
import IssueIntake.Proofs.Issue.Prepared
import IssueIntake.Store.Row
/-!
# Rows are read back

A row of the table of issues is read back as the issue of which it was made, or the first of its
columns that cannot be read gives the failure (`IssueRow.reads_encode`); an issue that is ready to
be stored has no such column (`IssueRow.decode_encode`). A row of the table of events is read back
unless its payload nests too deep (`EventRow.decode_encode_created`): the metadata of an issue lies
deeper in the payload than in the text in which the issue came, but no more levels are allowed
there.
-/

namespace IssueIntake

/-! ## Columns that cannot be read -/

namespace Issue

/-- Metadata as it is held: every object is in normal form, and all numbers are exact. -/
def ExactMetadata (i : Issue) : Prop :=
  ∀ v, i.metadata = some v → v.normalize = v ∧ v.Exact

theorem Readable.exactMetadata {i : Issue} {levels : Nat} (h : i.Readable levels)
    (whole : i.WholeMetadata) : i.ExactMetadata := by
  intro v hv
  obtain ⟨-, normal, readable⟩ := h.fields .metadata v hv
  exact ⟨normal, Json.exact_of_isWhole (whole v hv) readable.fits⟩

/-- The position of the column of a timestamp. -/
def Stamp.column : Stamp → Nat
  | createdAt => 13
  | updatedAt => 14
  | closedAt => 15
  | deletedAt => 17

/-- The fault of the column of a timestamp, if it cannot be read: the year has a sign, or there is
no timestamp and the column, which needs a value, holds the empty text. -/
def stampFault? (i : Issue) (s : Stamp) : Option DatabaseError :=
  match i.stamp? s with
  | some t => if isStorable t then none else some (.conversion s.column (.instant .invalid))
  | none =>
    if s = .createdAt ∨ s = .updatedAt then some (.conversion s.column (.instant .tooShort))
    else none

/-- The fault of the column of the metadata, if it nests too deep to be read. -/
def metadataFault? (i : Issue) : Option DatabaseError :=
  if i.metadataLevels ≤ Json.maxLevels then none else some (.conversion 23 .tooDeep)

/-- The fault of the first column of an issue's row that cannot be read, if there is one. -/
def rowFault? (i : Issue) : Option DatabaseError :=
  i.metadataFault?.or ((i.stampFault? .createdAt).or ((i.stampFault? .updatedAt).or
    ((i.stampFault? .closedAt).or (i.stampFault? .deletedAt))))

variable {i : Issue}

theorem stampFault?_eq_none_iff {s : Stamp} : i.stampFault? s = none ↔
    (s = .createdAt ∨ s = .updatedAt → (i.stamp? s).isSome = true) ∧
      ∀ t, i.stamp? s = some t → 0 ≤ t.date.year ∧ t.date.year ≤ 9999 := by
  unfold stampFault?
  cases i.stamp? s with
  | none => simp
  | some t => simp [isStorable_iff]

/-- The row of an issue can be read if and only if the issue has the times of its creation and of
its last change, the years of all its timestamps have four digits, and its metadata nests no deeper
than what is read. -/
theorem rowFault?_eq_none_iff : i.rowFault? = none ↔
    (i.createdAt.isSome = true ∧ i.updatedAt.isSome = true) ∧
      (∀ s t, i.stamp? s = some t → 0 ≤ t.date.year ∧ t.date.year ≤ 9999) ∧
      i.metadataLevels ≤ Json.maxLevels := by
  have stamps : (∀ s, i.stampFault? s = none) ↔
      (i.createdAt.isSome = true ∧ i.updatedAt.isSome = true) ∧
        ∀ s t, i.stamp? s = some t → 0 ≤ t.date.year ∧ t.date.year ≤ 9999 := by
    simp only [stampFault?_eq_none_iff, forall_and, forall_eq_or_imp, forall_eq]
    rfl
  have columns : i.rowFault? = none ↔
      (∀ s, i.stampFault? s = none) ∧ i.metadataLevels ≤ Json.maxLevels := by
    simp only [rowFault?, Option.or_eq_none_iff, metadataFault?, ite_eq_left_iff]
    constructor
    · rintro ⟨shallow, created, updated, closed, deleted⟩
      exact ⟨fun s => by cases s <;> assumption, by simpa using shallow⟩
    · rintro ⟨none, shallow⟩
      exact ⟨fun deep => absurd shallow deep, none _, none _, none _, none _⟩
  rw [columns, stamps, and_assoc]

end Issue

namespace IssueRow

/-! ## Reading rows of issues -/

/-- What is read is a value, or a fault if there is one. -/
def Reads {ε α : Type} (fault? : Option ε) (value : α) (x : Except ε α) : Prop :=
  x = match fault? with
    | some e => .error e
    | none => .ok value

namespace Reads

variable {ε α β : Type} {fault? later? : Option ε} {value : β}

theorem bind {a : α} {x : Except ε α} {k : α → Except ε β} (h : Reads fault? a x)
    (rest : Reads later? value (k a)) : Reads (fault?.or later?) value (x >>= k) := by
  cases fault? <;> cases h
  · exact rest
  · rfl

/-- Where a value is needed, the rest is read with the value that is there. -/
theorem bind_some {a? : Option α} {x : Except ε α} {k : α → Except ε β}
    (h : Reads fault? a? (x.map some))
    (rest : ∀ a, a? = some a → Reads later? value (k a)) :
    Reads (fault?.or later?) value (x >>= k) := by
  cases x with
  | error e =>
    cases fault? <;> cases h
    rfl
  | ok a =>
    cases fault? <;> cases h
    exact rest a rfl

end Reads

variable {levels : Nat} {i : Issue}

/-- An instant that is kept is read back, unless it is one that no issue may carry. -/
theorem readStamp_stored (position : Nat) (t : Instant) : readStamp position (t.text .stored) =
    if Issue.isStorable t then .ok t else .error (.conversion position (.instant .invalid)) := by
  unfold readStamp
  by_cases four : 0 ≤ t.date.year ∧ t.date.year ≤ 9999
  · rw [Instant.parseStrict_stored four, if_pos (Issue.isStorable_iff.2 four)]
  · rw [Instant.parseStrict_stored_of_signed four, if_neg (mt Issue.isStorable_iff.1 four)]

theorem readStamp_text (position : Nat) {t : Instant}
    (four : 0 ≤ t.date.year ∧ t.date.year ≤ 9999) :
    readStamp position (t.text .stored) = .ok t := by
  rw [readStamp_stored, if_pos (Issue.isStorable_iff.2 four)]

/-- The column of a timestamp that every issue in the table has. -/
theorem reads_stampText {s : Issue.Stamp} (needed : s = .createdAt ∨ s = .updatedAt) :
    Reads (i.stampFault? s) (i.stamp? s)
      ((readStamp s.column (stampText (i.stamp? s))).map some) := by
  unfold Issue.stampFault?
  cases i.stamp? s with
  | none =>
    rw [if_pos needed]
    rfl
  | some t =>
    rw [stampText, readStamp_stored]
    by_cases storable : Issue.isStorable t = true <;> simp [Reads, storable, Except.map]

/-- The column of a timestamp that an issue in the table may lack. -/
theorem reads_optionalStamp {s : Issue.Stamp} (free : ¬ (s = .createdAt ∨ s = .updatedAt)) :
    Reads (i.stampFault? s) (i.stamp? s)
      (readOptionalStamp s.column ((i.stamp? s).map (·.text .stored))) := by
  unfold Issue.stampFault?
  cases i.stamp? s with
  | none =>
    rw [if_neg free]
    rfl
  | some t =>
    rw [Option.map_some, readOptionalStamp, readStamp_stored]
    by_cases storable : Issue.isStorable t = true <;> simp [Reads, storable, Except.map]

theorem reads_metadata (held : i.ExactMetadata) :
    Reads i.metadataFault? i.metadata (readMetadata 23 (i.metadata.map Json.text)) := by
  unfold Issue.metadataFault? Issue.metadataLevels
  cases hv : i.metadata with
  | none => rfl
  | some v =>
    obtain ⟨normal, exact⟩ := held v hv
    rw [Option.map_some, readMetadata, Json.readAll_text exact, Json.keepWithin]
    by_cases shallow : v.levels ≤ Json.maxLevels <;> simp [Reads, shallow, normal]

/-- The row of an issue is read back as the issue, or the first column that cannot be read gives the
fault. -/
theorem reads_encode (canonical : i.Canonical) (held : i.ExactMetadata) :
    Reads i.rowFault? i.written (encode i).decode := by
  -- The columns are read in the order of `rowFault?`, and the rest of the row has no faults.
  refine .bind (reads_metadata held) ?_
  refine .bind_some (reads_stampText (s := .createdAt) (by decide)) fun created hc => ?_
  refine .bind_some (reads_stampText (s := .updatedAt) (by decide)) fun updated hu => ?_
  refine .bind (reads_optionalStamp (s := .closedAt) (by decide)) ?_
  rw [← Option.or_none (o := i.stampFault? .deletedAt)]
  refine .bind (reads_optionalStamp (s := .deletedAt) (by decide)) ?_
  simp only [Reads, encode, canonical.status, canonical.issueType, ← hc, ← hu]
  rfl

/-- The row of an issue that is ready to be stored is read back as the issue. -/
theorem decode_encode (sound : i.Sound) (h : i.Readable levels) (shallow : levels ≤ 127)
    (whole : i.WholeMetadata) : (encode i).decode = .ok i.written := by
  have canonical : i.Canonical := ⟨h.status, h.issueType⟩
  have held : i.ExactMetadata := h.exactMetadata whole
  have fault : i.rowFault? = none := Issue.rowFault?_eq_none_iff.2
    ⟨⟨sound.created, sound.updated⟩, sound.years, Nat.le_trans h.metadataLevels_le shallow⟩
  have read := reads_encode canonical held
  rwa [fault] at read

end IssueRow

namespace EventRow

variable {levels : Nat} {i : Issue}

/-- The row of the event of a creation is read back, unless the metadata of the issue nests deeper
than 125 levels. -/
theorem decode_encode_created (h : i.Readable levels) (whole : i.WholeMetadata) (actor : String)
    {now : Instant} (four : 0 ≤ now.date.year ∧ now.date.year ≤ 9999) :
    (encode (.created i actor now)).decode =
      if i.metadataLevels ≤ 125 then .ok (.created i.written actor now)
      else .error (.conversion 4 .tooDeep) := by
  have payload := Action.parse_payload h whole
  simp only [decode, encode, Event.created, readPayload, payload]
  by_cases shallow : i.metadataLevels ≤ 125
  · simp only [if_pos shallow, IssueRow.readStamp_text 5 four]
    rfl
  · simp only [if_neg shallow]
    rfl

end EventRow

end IssueIntake
