import IssueIntake.Proofs.Source.Lines
import IssueIntake.Proofs.Store.ReadBack
import IssueIntake.Proofs.Store.Reimport
/-!
# Export and import again

The issues of a store, written one a line, are the same store again once they are imported into an
empty one (`export_reimports`). Every row that is there was settled when it was entered
(`Tables.Settled`), so ingestion has nothing to add to it a second time: the texts of the issues are
read back as the issues, and these are imported as they are.

This needs rows that say in full what was stored (`IssueRow.Exportable`). Three sorts of rows do
not, which only a caller that makes the issues itself can store: a row may hold metadata that is
`null`, which is no metadata in the text of an issue; it may hold metadata that nests as deep as a
text may, which is too deep inside an issue; and it may hold the name of tombstones as a custom
status, without the time of a deletion (`export_reimports_odd_rows`).
-/

namespace IssueIntake

open Relation

/-- A settled issue that is read back from its text and from its row. -/
structure Issue.Portable (i : Issue) : Prop extends i.Settled where
  readable : i.Readable 126
  whole : i.WholeMetadata

/-- What a row has to say in full. The metadata that is read from it is a value other than `null`
and leaves room for the object of the issue around it, and a tombstone has the time of its
deletion. -/
structure IssueRow.Exportable (r : IssueRow) : Prop where
  metadata : ∃ held, readMetadata 23 r.metadata = .ok held ∧
    ∀ v, held = some v → v ≠ .null ∧ v.levels ≤ 126
  deleted : r.status = "tombstone" → r.deletedAt.isSome = true

namespace Issue.Portable

variable {i : Issue}

/-- The token of the namespace is none of the things that make an issue portable. -/
theorem written (h : i.Portable) : i.written.Portable where
  sound := {
    created := h.sound.created
    updated := h.sound.updated
    years := fun s t hs => h.sound.years s t (by cases s <;> exact hs)
    title := h.sound.title
    priority := h.sound.priority
    fingerprinted := h.sound.fingerprinted
    closed := h.sound.closed
    notClosed := h.sound.notClosed
    deleted := h.sound.deleted }
  named := h.named
  unbroken := h.unbroken
  readable := h.readable.congr rfl rfl rfl rfl
  whole := h.whole

/-- The row of a portable issue is read back as the issue. -/
theorem decode_encode (h : i.Portable) : (IssueRow.encode i).decode = .ok i.written :=
  IssueRow.decode_encode h.sound h.readable (by decide) h.whole

end Issue.Portable

/-! ## Exportable rows -/

namespace Issue

variable {i : Issue}

/-- The issue with the status and the type that its row will be read with. -/
def spelled (i : Issue) : Issue :=
  { i with
    status := .ofName i.status.name
    issueType := .ofName i.issueType.name }

/-- Rows only hold the names. -/
theorem encode_spelled (i : Issue) : IssueRow.encode i.spelled = .encode i := by
  simp only [IssueRow.encode, spelled, Status.name_ofName, IssueType.name_ofName]

/-- An issue is sound with what its row is read with, if the row is sound and has the time of
deletion of a tombstone. -/
theorem Sound.spelled (sound : i.Sound) (row : (IssueRow.encode i).Sound)
    (deleted : (IssueRow.encode i).status = "tombstone" →
      (IssueRow.encode i).deletedAt.isSome = true) : i.spelled.Sound := by
  rw [← encode_spelled] at row deleted
  -- The status is the one that the column of the row names.
  have status : i.spelled.status = .ofName (IssueRow.encode i.spelled).status :=
    congrArg Status.ofName (Status.name_ofName _).symm
  refine {
    created := sound.created
    updated := sound.updated
    years := fun s t hs => sound.years s t (by cases s <;> exact hs)
    title := sound.title
    priority := sound.priority
    fingerprinted := sound.fingerprinted
    closed := fun closed => ?_
    notClosed := fun timed => ?_
    deleted := ⟨fun timed => ?_, fun dead => ?_⟩ }
  · simpa [IssueRow.encode] using row.closed (congrArg Status.name closed)
  · rw [status]
    exact (row.notClosed (by simpa [IssueRow.encode] using timed)).imp (congrArg Status.ofName)
      (congrArg Status.ofName)
  · rw [status]
    exact congrArg Status.ofName (row.deleted (by simpa [IssueRow.encode] using timed))
  · simpa [IssueRow.encode] using deleted (congrArg Status.name dead)

/-- An issue that can be read has an exportable row, if it has the time of deletion of a
tombstone. -/
theorem Readable.exportable (h : i.Readable 126) (whole : i.WholeMetadata)
    (deleted : i.status = .tombstone → i.deletedAt.isSome = true) :
    (IssueRow.encode i).Exportable where
  metadata := by
    have read := IssueRow.reads_metadata (h.exactMetadata whole)
    rw [metadataFault?, if_pos (Nat.le_trans h.metadataLevels_le (by decide))] at read
    refine ⟨i.metadata, read, fun v hv => ?_⟩
    obtain ⟨notNull, -, readable⟩ := h.fields .metadata v hv
    exact ⟨notNull, readable.shallow⟩
  deleted dead := by
    have status : i.status = .ofName "tombstone" :=
      h.status.symm.trans (congrArg Status.ofName dead)
    simpa [IssueRow.encode] using deleted status

/-- A settled issue with an exportable row is portable, with what its row is read with. -/
theorem Settled.portable (settled : i.Settled) (held : i.ExactMetadata)
    (exportable : (IssueRow.encode i).Exportable) : i.spelled.Portable := by
  have row := IssueRow.Sound.encode settled.sound settled.unbroken
  have metadata : ∀ v, i.metadata = some v → v ≠ .null ∧ v.levels ≤ 126 := by
    obtain ⟨there, read, fit⟩ := exportable.metadata
    have expected := IssueRow.reads_metadata held
    -- The column was read, so what was read is the metadata of the issue.
    cases hf : i.metadataFault? with
    | none =>
      rw [hf] at expected
      obtain rfl : there = i.metadata := Except.ok.inj (read.symm.trans expected)
      exact fit
    | some fault =>
      rw [hf] at expected
      cases read.symm.trans expected
  exact {
    sound := settled.sound.spelled row exportable.deleted
    named := settled.named
    unbroken := by rw [encode_spelled, settled.unbroken]
    readable := by
      refine .ofFields (congrArg Status.ofName (Status.name_ofName _))
        (congrArg IssueType.ofName (IssueType.name_ofName _)) ?_ fun v hv => ?_
      · have priority := settled.sound.priority
        exact ⟨Int.le_trans (by decide) priority.1, Int.le_trans priority.2 (by decide)⟩
      · obtain ⟨normal, exact⟩ := held v hv
        obtain ⟨notNull, shallow⟩ := metadata v hv
        exact ⟨notNull, normal, shallow, exact.fits⟩
    whole := fun v hv => (held v hv).2.isWhole }

end Issue

namespace Tables

variable {t u : Tables}

/-! ## Settled tables -/

/-- Every row is that of a settled issue, and where there are rows there is a namespace. -/
structure Settled (t : Tables) : Prop where
  distinct : t.issues.keys.Nodup
  spaced : t.issues.keys ≠ [] → ∀ token, (t.view.space? token).isSome = true
  rows : ∀ id row, t.issues.get? id = some row →
    ∃ i : Issue, i.id = id ∧ i.Settled ∧ i.ExactMetadata ∧ row = .encode i

/-- Every row is that of a portable issue, and where there are rows there is a namespace. -/
structure Portable (t : Tables) : Prop where
  distinct : t.issues.keys.Nodup
  spaced : t.issues.keys ≠ [] → ∀ token, (t.view.space? token).isSome = true
  rows : ∀ id row, t.issues.get? id = some row →
    ∃ i : Issue, i.id = id ∧ i.Portable ∧ row = .encode i

theorem Settled.portable (h : t.Settled)
    (exportable : ∀ id row, t.issues.get? id = some row → row.Exportable) : t.Portable where
  distinct := h.distinct
  spaced := h.spaced
  rows id row hr := by
    obtain ⟨i, own, settled, held, rfl⟩ := h.rows id row hr
    exact ⟨i.spelled, own, settled.portable held (exportable id _ hr), i.encode_spelled.symm⟩

theorem empty_settled : Tables.empty.Settled where
  distinct := List.nodup_nil
  spaced none := absurd rfl none
  rows := by
    rintro id row ⟨⟩

/-- The entry of an issue keeps tables settled. -/
theorem Settled.book (h : t.Settled) {terms : Terms} {i j : Issue}
    (decided : (t.view.decision terms i : Decision StoreError) = (.ok (), j))
    (new : refusal? j t = none) (held : i.ExactMetadata) : (t.book terms j).Settled := by
  obtain ⟨named, spaced⟩ := View.named_of_decision decided
  obtain ⟨-, -, -, metadata⟩ := View.kept_of_decision decided
  have settled : j.Settled := {
    sound := View.decision_sound decided
    named := named
    unbroken := brokenRule?_eq_none_of_refusal new }
  have heldStored : j.ExactMetadata := by rwa [Issue.ExactMetadata, metadata]
  refine ⟨Keyed.keys_insert_nodup h.distinct (contains_eq_false_of_refusal new) _,
    fun _ token => ?_, fun id row hr => ?_⟩
  · exact View.space?_isSome_iff.2 (View.space?_isSome_iff.1 spaced)
  · simp only [Tables.book, Keyed.get?_insert] at hr
    split at hr
    · next same =>
      cases hr
      exact ⟨j, same.symm, settled, heldStored, rfl⟩
    · exact h.rows id row hr

/-- So do entries in sequence. -/
theorem Settled.taken {records : List (Terms × Issue × Nat)} {js : List Issue}
    (taken : Ingest.Taken view refusal? (fun terms i w => w.book terms i) records t js u)
    (held : ∀ record ∈ records, record.2.1.ExactMetadata) (h : t.Settled) : u.Settled := by
  induction taken with
  | done w => exact h
  | record decided new later ih =>
    obtain ⟨first, others⟩ := List.forall_mem_cons.1 held
    exact ih others (h.book decided new first)

/-! ## Use of the tables -/

/-- What is done to the tables of a store: its namespace is named, another setting is changed, an
issue is taken in, or a batch of issues is. All numbers in the metadata of what is stored are whole
ones. -/
inductive Use : Tables → Tables → Prop
  | name (t : Tables) (space : String) : Use t ((setSpace space).run t).2
  | configure (t : Tables) {key : String} (other : key ≠ Setting.issueSpace) (value : String) :
      Use t (t.setConfig key value)
  | create (t : Tables) (terms : Terms) {i : Issue}
      (held : ∀ j u, (createIssue terms i).run t = (.ok j, u) → i.ExactMetadata) :
      Use t ((createIssue terms i).run t).2
  | importBatch (t : Tables) (terms : BatchTerms) {batch : List Issue}
      (held : ∀ ids u, (importBatchBy backend terms batch).run t = (.ok ids, u) →
        ∀ i ∈ batch, i.ExactMetadata) :
      Use t ((importBatchBy backend terms batch).run t).2

/-- An issue that is taken in, with such metadata. -/
theorem Use.of_createIssue {terms : Terms} {i j : Issue} (held : i.ExactMetadata)
    (created : (createIssue terms i).run t = (.ok j, u)) : Use t u := by
  have use := Use.create t terms fun _ _ _ => held
  rwa [created] at use

theorem Settled.setSpace (h : t.Settled) (space : String) :
    ((setSpace space).run t).2.Settled := by
  unfold Call.run Tables.setSpace
  dsimp only
  split
  · exact h
  · next accepted =>
    rw [Bool.or_eq_true, not_or] at accepted
    refine ⟨h.distinct, fun _ token => View.space?_isSome_iff.2 ⟨Text.trim space, ?_, ?_⟩, h.rows⟩
    · simp [view, setConfig, Keyed.get?_insert]
    · rw [Text.trim_trim]
      simpa using accepted.1

/-- A step keeps tables settled. -/
theorem Use.settled (use : Use t u) (h : t.Settled) : u.Settled := by
  cases use with
  | name space => exact h.setSpace space
  | configure other value =>
    refine ⟨h.distinct, fun some token => ?_, h.rows⟩
    have before := View.space?_isSome_iff.1 (h.spaced some token)
    refine View.space?_isSome_iff.2 ?_
    simpa [view, setConfig, Keyed.get?_insert, Ne.symm other] using before
  | create terms held =>
    refine Call.atomically_keeps h fun j w ran => ?_
    have created : (createIssue terms _).run t = (.ok j, w) := Call.atomically_eq_ok_iff.2 ran
    obtain ⟨decided, new, rfl⟩ := createIssue_eq_ok_iff.1 created
    exact h.book decided new (held j _ created)
  | importBatch terms held =>
    refine Call.atomically_keeps h fun ids w ran => ?_
    have imported : (importBatchBy backend terms _).run t = (.ok ids, w) :=
      Call.atomically_eq_ok_iff.2 ran
    obtain ⟨js, taken, -⟩ := importBatchBy_eq_ok_iff.1 imported
    refine Settled.taken taken (fun record hr => ?_) h
    have given := (Ingest.schedule_issues terms _).mem_iff.1 (List.mem_map_of_mem hr)
    exact held ids w imported _ given

theorem settled_of_use (run : ReflTransGen Use .empty t) : t.Settled := by
  induction run with
  | refl => exact empty_settled
  | tail _ use ih => exact use.settled ih

/-! ## Export -/

/-- The issues of all rows, as they are read, each once. -/
structure Lists (t : Tables) (issues : List Issue) : Prop where
  ids : (issues.map Issue.id).Perm t.issues.keys
  read : ∀ i ∈ issues, t.issue? i.id = .ok (some i)

/-- Tables without issues, with the namespace that other tables have and with names for the statuses
and types of some issues. -/
structure Receives (u t : Tables) (issues : List Issue) : Prop where
  fresh : u.issues = .empty
  space : u.config.get? Setting.issueSpace = t.config.get? Setting.issueSpace
  statuses : ∀ i ∈ issues, u.view.vocabulary.allowsStatus i.status = true
  types : ∀ i ∈ issues, u.view.vocabulary.allowsType i.issueType = true

/-- The first entry of tables is the only one that is listed, as its row is read. -/
theorem lists_book {terms : Terms} {i shown : Issue} (first : t.issues = .empty)
    (own : shown.id = i.id) (read : (IssueRow.encode i).decode = .ok shown) :
    (t.book terms i).Lists [shown] where
  ids := by
    have new : t.issues.contains i.id = false := by rw [first]; rfl
    have keys := (Keyed.keys_insert_perm new (IssueRow.encode i)).symm
    rw [first] at keys
    rw [List.map_singleton, own, book, first]
    exact keys
  read := by
    refine List.forall_mem_singleton.2 ?_
    simp only [Tables.issue?, book, own, Keyed.get?_insert, if_true, read]
    rfl

/-- A row of portable tables is read, as a portable issue. -/
theorem Portable.issue? (h : t.Portable) {id : String} (there : id ∈ t.issues.keys) :
    ∃ i : Issue, i.id = id ∧ i.Portable ∧ i.written = i ∧ t.issues.get? id = some (.encode i) ∧
      t.issue? id = .ok (some i) := by
  rw [← Keyed.contains_iff_mem_keys, Keyed.contains_eq_isSome] at there
  obtain ⟨row, hr⟩ := Option.isSome_iff_exists.1 there
  obtain ⟨i, named, portable, rfl⟩ := h.rows id row hr
  refine ⟨i.written, named, portable.written, rfl, hr, ?_⟩
  simp only [Tables.issue?, hr, portable.decode_encode]
  rfl

/-- All rows of portable tables can be read. -/
theorem Portable.exists_lists (h : t.Portable) : ∃ issues, t.Lists issues := by
  have read : ∀ id ∈ t.issues.keys, ∃ i : Issue, i.id = id ∧ t.issue? id = .ok (some i) := by
    intro id there
    obtain ⟨i, named, -, -, -, read⟩ := h.issue? there
    exact ⟨i, named, read⟩
  choose issueOf named asRead using read
  refine ⟨t.issues.keys.attach.map fun id => issueOf id.1 id.2, ?_, fun i hi => ?_⟩
  · have ids : Issue.id ∘ (fun id : {id // id ∈ t.issues.keys} => issueOf id.1 id.2) =
        Subtype.val := funext fun id => named id.1 id.2
    rw [List.map_map, ids, List.attach_map_subtype_val]
  · obtain ⟨⟨id, there⟩, -, rfl⟩ := List.mem_map.1 hi
    dsimp only
    rw [named, asRead]

/-- The issues that are listed of portable tables are portable and have their own rows. -/
theorem Lists.portable {issues : List Issue} (lists : t.Lists issues) (h : t.Portable) :
    ∀ i ∈ issues, i.id ∈ t.issues.keys ∧ i.Portable ∧ i.written = i := by
  intro i hi
  have there := lists.ids.mem_iff.1 (List.mem_map_of_mem hi)
  obtain ⟨j, -, portable, bare, -, read⟩ := h.issue? there
  obtain rfl : j = i := by simpa [lists.read i hi] using read.symm
  exact ⟨there, portable, bare⟩

/-- Listed issues are welcome in tables that receive them. -/
theorem Receives.welcomes {issues : List Issue} (receives : u.Receives t issues)
    (lists : t.Lists issues) (h : t.Portable) : ∀ i ∈ issues, u.Welcomes i := by
  intro i hi
  have there := lists.ids.mem_iff.1 (List.mem_map_of_mem hi)
  have spaced := View.space?_isSome_iff.1 (h.spaced (List.ne_nil_of_mem there) "")
  refine ⟨View.space?_isSome_iff.2 ?_, receives.statuses i hi, receives.types i hi⟩
  simpa [view, receives.space] using spaced

end Tables

/-- The rows of a store that are exportable can all be read, and written one a line, in any order
and with lines in between that hold nothing, they are read back as they were. A trusted import of
them into an empty store with the same namespace and with their statuses and types succeeds at any
time, for all of them, and then this store has the same rows as the first and no others. -/
theorem export_reimports {t : Tables} (run : ReflTransGen Tables.Use .empty t)
    (exportable : ∀ id row, t.issues.get? id = some row → row.Exportable) :
    (∃ issues, t.Lists issues) ∧
      ∀ (issues : List Issue) (lines : List (List Char)) (u : Tables) (terms : BatchTerms),
        t.Lists issues → Source.Renders lines issues → u.Receives t issues →
        terms.mode = .trusted →
        Source.readIssues (Source.sourceBytes lines) = .ok issues ∧
          ∃ ids w, (Tables.importBatchBy Tables.backend terms issues).run u = (.ok ids, w) ∧
            ids.Perm t.issues.keys ∧ ∀ id, w.issue? id = t.issue? id := by
  have portable := (Tables.settled_of_use run).portable exportable
  refine ⟨portable.exists_lists, fun issues lines u terms lists renders receives trusted => ?_⟩
  have listed := lists.portable portable
  have welcome := receives.welcomes lists portable
  constructor
  · have same : issues.map Issue.written = issues :=
      (List.map_congr_left fun i hi => (listed i hi).2.2).trans (List.map_id issues)
    rw [Source.readIssues_renders renders fun i hi =>
      ⟨(listed i hi).2.1.readable, (listed i hi).2.1.whole⟩, same]
  obtain ⟨ids, w, imported, answer, rows, others⟩ := Tables.import_settled trusted
    (fun i hi => ⟨(listed i hi).2.1.toSettled, welcome i hi⟩)
    (lists.ids.nodup_iff.2 portable.distinct) (fun i _ => by rw [receives.fresh]; rfl)
  refine ⟨ids, w, imported, answer.trans lists.ids, fun id => ?_⟩
  -- A listed issue has the row that it had, and no other identifier had or has one.
  by_cases there : id ∈ issues.map Issue.id
  · obtain ⟨i, hi, rfl⟩ := List.mem_map.1 there
    have back := (listed i hi).2.1.decode_encode
    rw [lists.read i hi, Tables.issue?, rows i hi]
    simp only [back, (listed i hi).2.2]
    rfl
  · have absent : t.issues.get? id = none := by
      rw [lists.ids.mem_iff, ← Keyed.contains_iff_mem_keys, Bool.not_eq_true] at there
      exact Keyed.get?_eq_none there
    rw [Tables.issue?, Tables.issue?, others id there, receives.fresh, absent]
    rfl

/-- A closed issue of a custom type with metadata and a child of it, written in the other order with
a comment and an empty line between them, and imported three years later. -/
theorem export_reimports_parent_and_child :
    let later : Instant := ⟨⟨1973, 1, 1, by decide, by decide, by decide⟩, 0, 0, 0, 0,
      by decide, by decide, by decide, by decide, by decide⟩
    let second : Instant := ⟨⟨1970, 1, 1, by decide, by decide, by decide⟩, 0, 0, 1, 0,
      by decide, by decide, by decide, by decide, by decide⟩
    let given := { Issue.new "bd-1" "Fix the\nparser" with
      contentHash := "0"
      status := .closed
      issueType := .custom "spike"
      metadata := some (.object [("a", .null)]) }
    let parent := { given with
      createdAt := some .epoch
      updatedAt := some .epoch
      closedAt := some second }
    let draft := { Issue.new "bd-1.1" "Test it" with contentHash := "1" }
    let child := { draft with createdAt := some .epoch, updatedAt := some .epoch }
    let terms : Terms := ⟨"ann", .strict, .epoch⟩
    let fresh := (Tables.empty.setConfig Setting.issueSpace "bd").setNames Setting.types ["spike"]
    let t := (fresh.book terms parent).book terms child
    let lines := ["# bd".toList, child.text.toList, [], [' '] ++ parent.text.toList ++ ['\x0d'], []]
    t.Lists [child, parent] ∧
      Source.readIssues (Source.sourceBytes lines) = .ok [child, parent] ∧
      ∃ ids w, (Tables.importBatchBy Tables.backend (.still ⟨"bob", .trusted, later⟩)
          [child, parent]).run fresh = (.ok ids, w) ∧
        ids.Perm ["bd-1", "bd-1.1"] ∧ ∀ id, w.issue? id = t.issue? id := by
  intro later second given parent draft child terms fresh t lines
  have readableGiven : given.Readable 126 := by
    refine .ofFields rfl (by decide) (by decide) ?_
    rintro v ⟨⟩
    exact ⟨by rintro ⟨⟩, rfl, by decide, trivial, trivial⟩
  have wholeGiven : given.WholeMetadata := by
    rintro v ⟨⟩
    exact ⟨trivial, trivial⟩
  have readableDraft : draft.Readable 126 := .ofFields rfl rfl (by decide) (by rintro v ⟨⟩)
  have wholeDraft : draft.WholeMetadata := by rintro v ⟨⟩
  have named : ((Tables.setSpace "bd").run .empty).2 =
      Tables.empty.setConfig Setting.issueSpace "bd" := by decide +kernel
  have first : (Tables.createIssue terms given).run fresh =
      (.ok parent, fresh.book terms parent) :=
    Tables.createIssue_eq_ok_iff.2 ⟨by decide +kernel, by decide +kernel, rfl⟩
  have next : (Tables.createIssue terms draft).run (fresh.book terms parent) = (.ok child, t) :=
    Tables.createIssue_eq_ok_iff.2 ⟨by decide +kernel, by decide +kernel, rfl⟩
  have run : ReflTransGen Tables.Use .empty t := by
    have space := Tables.Use.name .empty "bd"
    have types := Tables.Use.configure (Tables.empty.setConfig Setting.issueSpace "bd")
      (show Setting.types ≠ Setting.issueSpace by decide) (NameList.format ["spike"])
    have entered := Tables.Use.of_createIssue (readableGiven.exactMetadata wholeGiven) first
    have follows := Tables.Use.of_createIssue (readableDraft.exactMetadata wholeDraft) next
    rw [named] at space
    exact (((ReflTransGen.single space).tail types).tail entered).tail follows
  have decided := (Tables.createIssue_eq_ok_iff.1 first).1
  have decidedNext := (Tables.createIssue_eq_ok_iff.1 next).1
  have readableParent : parent.Readable 126 := (View.readable_of_decision readableGiven decided).1
  have readableChild : child.Readable 126 := (View.readable_of_decision readableDraft decidedNext).1
  have parentRead : (fresh.book terms parent).issue? "bd-1" = .ok (some parent) :=
    Tables.issue?_book (View.decision_sound decided) readableParent (by decide) wholeGiven terms
      fresh
  have childRead : t.issue? "bd-1.1" = .ok (some child) :=
    Tables.issue?_book (View.decision_sound decidedNext) readableChild (by decide) wholeDraft terms
      (fresh.book terms parent)
  have exportable : ∀ id row, t.issues.get? id = some row → row.Exportable := by
    intro id row hr
    simp only [t, Tables.book, Keyed.get?_insert] at hr
    split at hr
    · cases hr
      exact readableChild.exportable wholeDraft (by rintro ⟨⟩)
    · split at hr
      · cases hr
        exact readableParent.exportable wholeGiven (by rintro ⟨⟩)
      · cases hr
  have keys : t.issues.keys = ["bd-1", "bd-1.1"] := by decide +kernel
  have lists : t.Lists [child, parent] := {
    ids := by
      rw [keys]
      exact .swap _ _ _
    read := by
      have kept : (fresh.book terms parent).Extends t :=
        Ledger.extends_enter (by decide +kernel)
      exact List.forall_mem_cons.2
        ⟨childRead, List.forall_mem_singleton.2 (kept.issue? parentRead)⟩ }
  have renders : Source.Renders lines [child, parent] := by
    refine .passed (by decide) (by decide) (.plain (.passed (by decide) (by decide) ?_))
    have blank : Text.isBlank ' ' = true ∧ ' ' ≠ '\n' := by decide
    have ending : Text.isBlank '\x0d' = true ∧ '\x0d' ≠ '\n' := by decide
    exact .issue (List.forall_mem_singleton.2 blank) (List.forall_mem_singleton.2 ending)
      (.passed (by decide) (by decide) .done)
  have receives : fresh.Receives t [child, parent] := {
    fresh := rfl
    space := rfl
    statuses := by decide +kernel
    types := by decide +kernel }
  obtain ⟨-, again⟩ := export_reimports run exportable
  obtain ⟨back, ids, w, imported, answer, same⟩ :=
    again _ lines fresh (.still ⟨"bob", .trusted, later⟩) lists renders receives rfl
  exact ⟨lists, back, ids, w, imported, keys ▸ answer, same⟩

/-- Three rows that are read, but do not come back from the text of what was read: the metadata
`null` is lost; metadata of 127 levels cannot be read; and a tombstone by its custom status is given
a time of deletion. -/
theorem export_reimports_odd_rows :
    let fresh := ((Tables.setSpace "bd").run .empty).2.setNames Setting.statuses ["tombstone"]
    let terms : Terms := ⟨"ann", .strict, .epoch⟩
    let again (i : Issue) := (Tables.importBatchBy Tables.backend
      (.still ⟨"bob", .trusted, .epoch⟩) [i]).run fresh
    let back (i : Issue) := Source.readIssues (Source.sourceBytes [i.text.toList])
    let given := { Issue.new "bd-1" "Fix the parser" with contentHash := "0" }
    let plain := { given with createdAt := some .epoch, updatedAt := some .epoch }
    let bare := { plain with metadata := some .null }
    let deep := { plain with metadata := some (.nested 126) }
    let spelled := { plain with status := .custom "tombstone" }
    let dead := { plain with status := .tombstone }
    let t (i : Issue) := fresh.book terms i
    (ReflTransGen Tables.Use .empty (t bare) ∧ (t bare).Lists [bare] ∧ back bare = .ok [plain] ∧
      (again plain).1 = .ok ["bd-1"] ∧
      (again plain).2.issue? "bd-1" ≠ (t bare).issue? "bd-1") ∧
    (ReflTransGen Tables.Use .empty (t deep) ∧ (t deep).Lists [deep] ∧
      back deep = .error (.malformed 1 .tooDeep)) ∧
    ReflTransGen Tables.Use .empty (t spelled) ∧ (t spelled).Lists [dead] ∧
      back dead = .ok [dead] ∧ (again dead).1 = .ok ["bd-1"] ∧
      (again dead).2.issue? "bd-1" ≠ (t spelled).issue? "bd-1" := by
  intro fresh terms again back given plain bare deep spelled dead t
  have reached : ∀ {j : Issue}, j.ExactMetadata →
      (Tables.createIssue terms j).run fresh = (.ok j, t j) →
      ReflTransGen Tables.Use .empty (t j) := by
    intro j held created
    have named := Tables.Use.name .empty "bd"
    have status := Tables.Use.configure ((Tables.setSpace "bd").run .empty).2
      (show Setting.statuses ≠ Setting.issueSpace by decide) (NameList.format ["tombstone"])
    exact ((ReflTransGen.single named).tail status).tail (.of_createIssue held created)
  -- Each row is read, since its metadata is the only column that could fail and nests 127 levels.
  have lists : ∀ {j shown : Issue}, shown.id = j.id → shown.written = shown →
      IssueRow.encode j = .encode shown → shown.Canonical → shown.ExactMetadata →
      shown.rowFault? = none → (t j).Lists [shown] := by
    intro j shown own bareToken row canonical held fine
    have read := IssueRow.reads_encode canonical held
    rw [fine, bareToken, ← row] at read
    exact Tables.lists_book (by decide +kernel) own read
  have heldBare : bare.ExactMetadata := by
    rintro v ⟨⟩
    exact ⟨rfl, trivial⟩
  have heldDeep : deep.ExactMetadata := by
    rintro v ⟨⟩
    exact ⟨Json.normalize_nested 126, Json.numbers_nested _ 126⟩
  have heldNone : dead.ExactMetadata ∧ spelled.ExactMetadata := by
    constructor <;> rintro v ⟨⟩
  have created : ∀ {j : Issue},
      (fresh.view.decision terms j : Decision StoreError) = (.ok (), j) →
      Tables.refusal? j fresh = none → (Tables.createIssue terms j).run fresh = (.ok j, t j) :=
    fun decided new => Tables.createIssue_eq_ok_iff.2 ⟨decided, new, rfl⟩
  refine ⟨⟨?_, ?_, ?_, ?_, ?_⟩, ⟨?_, ?_, ?_⟩, ?_, ?_, ?_, ?_, ?_⟩
  · exact reached heldBare (created (by decide +kernel) (by decide +kernel))
  · exact lists rfl rfl rfl ⟨rfl, rfl⟩ heldBare (by decide +kernel)
  · exact (Source.readIssues_text (by decide +kernel)).trans (by decide +kernel)
  · decide +kernel
  · decide +kernel
  · exact reached heldDeep (created (by decide +kernel) (by decide +kernel))
  · exact lists rfl rfl rfl ⟨rfl, rfl⟩ heldDeep (by decide +kernel)
  · exact (Source.readIssues_text (by decide +kernel)).trans (by decide +kernel)
  · exact reached heldNone.2 (created (by decide +kernel) (by decide +kernel))
  · exact lists rfl rfl rfl ⟨rfl, rfl⟩ heldNone.1 (by decide +kernel)
  · exact (Source.readIssues_text (by decide +kernel)).trans (by decide +kernel)
  · decide +kernel
  · decide +kernel

end IssueIntake
