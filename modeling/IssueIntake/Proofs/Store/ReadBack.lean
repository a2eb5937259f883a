import IssueIntake.Proofs.Store.AuditLog
/-!
# What is stored is what is read

An issue that is taken in is read from its table as it was stored (`issue?_book`), and whatever is
done to the tables afterwards, its row stays as it is (`run_extends`): the rows of an issue that has
been read and taken in give it back at every later time (`created_issue_reads_back`).
-/

namespace IssueIntake

open Relation

namespace Tables

variable {t u : Tables} {terms : Terms} {i stored : Issue}

/-! ## Rows stay as they are -/

/-- Whatever the tables hold at some time, they hold at every later time. -/
theorem run_extends (run : ReflTransGen Step t u) : t.Extends u := by
  have entry : EntryKeeps view refusal? (fun terms i w => w.book terms i) t.Extends := by
    intro terms i j w extended _ taken
    have fresh : w.ledger.rows.contains j.id = false := contains_eq_false_of_refusal taken
    exact extended.trans (Ledger.extends_enter fresh)
  have settings : ∀ (w : Tables) (key value : String), t.Extends w →
      t.Extends (w.setConfig key value) := fun _ _ _ extended => extended
  exact run_keeps backend_books entry settings run (.refl _)

/-- A row that is there is read alike from all tables that hold it. -/
theorem Extends.issue? (extended : t.Extends u) {id : String} {i : Issue}
    (read : t.issue? id = .ok (some i)) : u.issue? id = .ok (some i) := by
  unfold Tables.issue? at read ⊢
  cases row : t.issues.get? id with
  | none => simp [row] at read
  | some r =>
    have kept : u.issues.get? id = some r := extended.rows id r row
    rw [kept]
    simpa only [row] using read

/-! ## Reading the row of an issue -/

/-- The row of an issue that is ready to be stored is read back as the issue. -/
theorem issue?_book {levels : Nat} (sound : i.Sound) (readable : i.Readable levels)
    (shallow : levels ≤ 127) (whole : i.WholeMetadata) (terms : Terms) (t : Tables) :
    (t.book terms i).issue? i.id = .ok (some i.written) := by
  have row := IssueRow.decode_encode sound readable shallow whole
  simp only [Tables.issue?, book, Keyed.get?_insert, if_true, row]
  rfl

end Tables

/-- An issue that has been read and is taken in is read from the tables as it was stored, at once
and whatever is done to the tables afterwards. -/
theorem created_issue_reads_back {text token : String} {given stored : Issue} {terms : Terms}
    {t u : Tables} (read : Issue.parse text = .ok given) (whole : given.WholeMetadata)
    (created : (Tables.createIssue terms { given with spaceToken := token }).run t =
      (.ok stored, u)) :
    ∀ later, ReflTransGen Tables.Step u later →
      later.issue? stored.id = .ok (some stored.written) := by
  intro later run
  obtain ⟨decided, -, rfl⟩ := Tables.createIssue_eq_ok_iff.1 created
  have asRead : Issue.Readable 126 { given with spaceToken := token } :=
    (Issue.parse_yields text given read).1.congr rfl rfl rfl rfl
  obtain ⟨readable, metadata⟩ := View.readable_of_decision asRead decided
  have wholeStored : stored.WholeMetadata := by rwa [Issue.WholeMetadata, metadata]
  have sound := View.decision_sound decided
  exact (Tables.run_extends run).issue?
    (Tables.issue?_book sound readable (by decide) wholeStored terms t)

/-- A closed issue of a namespace below the configured one, with U+0000 in its texts, a leap second,
an empty reference and metadata, before and after the namespace is changed and a batch imported. -/
theorem created_issue_reads_back_closed :
    let leap : Instant := ⟨⟨2016, 12, 31, by decide, by decide, by decide⟩, 23, 59, 59, 1000000007,
      by decide, by decide, by decide, by decide, by decide⟩
    let closed : Instant := ⟨⟨2017, 1, 1, by decide, by decide, by decide⟩, 0, 0, 0, 7,
      by decide, by decide, by decide, by decide, by decide⟩
    let given := { Issue.new "bd-web-1" "T\x00" with
      contentHash := "0"
      description := "\x00"
      status := .closed
      issueType := .custom "spike"
      createdAt := some .epoch
      updatedAt := some leap
      externalRef := some ""
      metadata := some (.object [("a", .array [.null]), ("b", .number (.whole (-2)))]) }
    let stored := { given with closedAt := some closed, spaceToken := "web" }
    let terms : Terms := ⟨"ann", .strict, .epoch⟩
    let t := (Tables.empty.setConfig Setting.issueSpace "bd").setNames Setting.types ["spike"]
    let later := ((Tables.importBatch ⟨"bob", .trusted, leap⟩ [given]).run
      ((t.book terms stored).setConfig Setting.issueSpace "pq")).2
    (Tables.createIssue terms { given with spaceToken := "web" }).run t =
        (.ok stored, t.book terms stored) ∧
      (t.book terms stored).issue? "bd-web-1" = .ok (some stored.written) ∧
      later.issue? "bd-web-1" = .ok (some stored.written) := by
  intro leap closed given stored terms t later
  have readable : given.Readable 126 := by
    refine .ofFields rfl (by decide) (by decide) ?_
    rintro v ⟨⟩
    exact ⟨by rintro ⟨⟩, by decide, by decide, ⟨trivial, trivial⟩, ⟨by decide, by decide⟩, trivial⟩
  have whole : given.WholeMetadata := by
    rintro v ⟨⟩
    exact ⟨⟨trivial, trivial⟩, ⟨-2, rfl⟩, trivial⟩
  have read : Issue.parse given.text = .ok given := Issue.parse_text readable whole
  have created : (Tables.createIssue terms { given with spaceToken := "web" }).run t =
      (.ok stored, t.book terms stored) :=
    Tables.createIssue_eq_ok_iff.2 ⟨by decide +kernel, by decide +kernel, rfl⟩
  have always := created_issue_reads_back read whole created
  refine ⟨created, always _ .refl, always later ?_⟩
  exact (ReflTransGen.single (.configure _ Setting.issueSpace "pq")).tail
    (Tables.importBatch_step _ _ _)

end IssueIntake
