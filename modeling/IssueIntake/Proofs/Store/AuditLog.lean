import Mathlib.Control.Monad.Basic
import IssueIntake.Calendar.Epoch
import IssueIntake.Proofs.Store.Rows
import IssueIntake.Proofs.Store.Run
import IssueIntake.Store.Batch
/-!
# The audit log

Whoever takes an issue in finds one event of it in the audit log, with the issue as it was stored,
unless the metadata of the issue nests deeper than 125 levels. An issue may come with one level
more: it is stored and can be read, but its event can not.
-/

namespace IssueIntake

/-- What ingestion fills in has no part in these fields. -/
theorem View.kept_of_decision {ε : Type} {v : View} {terms : Terms} {i j : Issue}
    (decided : v.decision terms i = ((.ok (), j) : Decision ε)) :
    j.status = i.status ∧ j.issueType = i.issueType ∧ j.priority = i.priority ∧
      j.metadata = i.metadata := by
  obtain ⟨id, made, updated, closed, deleted, hash, frame⟩ := @View.decision_frame ε v terms i
  rw [decided] at frame
  have filled : j = _ := frame
  rw [filled]
  exact ⟨rfl, rfl, rfl, rfl⟩

/-- Nor in whether an issue can be read. -/
theorem View.readable_of_decision {ε : Type} {v : View} {terms : Terms} {i j : Issue}
    {levels : Nat} (h : i.Readable levels)
    (decided : v.decision terms i = ((.ok (), j) : Decision ε)) :
    j.Readable levels ∧ j.metadata = i.metadata := by
  obtain ⟨status, issueType, priority, metadata⟩ := View.kept_of_decision decided
  exact ⟨h.congr status issueType priority metadata, metadata⟩

namespace Tables

variable {t u : Tables} {terms : Terms} {i stored : Issue}

/-- An issue is taken in if it is admitted and not refused, and then the tables hold its entry. -/
theorem createIssue_eq_ok_iff : (createIssue terms i).run t = (.ok stored, u) ↔
    (t.view.decision terms i : Decision StoreError) = (.ok (), stored) ∧
      refusal? stored t = none ∧ u = t.book terms stored := by
  rw [createIssue, createIssueBy, Ingest.ingestCall_atomically backend_books,
    Ingest.ingestCall_eq_ok_iff, Ingest.ingest_eq_ok_iff backend_books]

/-- Every event belongs to a row, as its foreign key has it. -/
def EventsOwned (t : Tables) : Prop :=
  ∀ e ∈ t.events, t.issues.contains e.issueId = true

/-- All tables that are reached from none have only such events. -/
theorem eventsOwned_of_run (run : Relation.ReflTransGen Step .empty t) : t.EventsOwned :=
  (run_consistent run empty_consistent).1.1.owned

/-- The event of an entry is the only one of its issue. -/
theorem eventsOf_book (owned : t.EventsOwned) (fresh : t.issues.contains i.id = false) :
    (t.book terms i).eventsOf i.id =
      ((EventRow.encode (.created i terms.actor terms.now)).decode.map ([·])).mapError
        .database := by
  -- No event of a new identifier can have been there.
  have before : t.events.filter (·.issueId == i.id) = [] := by
    rw [List.filter_eq_nil_iff]
    intro e he same
    have there := owned e he
    rw [eq_of_beq same, fresh] at there
    cases there
  have own : (EventRow.encode (.created i terms.actor terms.now)).issueId == i.id := by
    simp [EventRow.encode, Event.created]
  simp only [eventsOf, book, List.filter_append, before, List.nil_append, List.filter_cons, own,
    if_true, List.filter_nil, List.mapM_cons, List.mapM_nil]
  cases (EventRow.encode (.created i terms.actor terms.now)).decode <;> rfl

end Tables

/-! ## Metadata that nests -/

/-- An array in as many arrays. -/
def Json.nested : Nat → Json
  | 0 => .array []
  | n + 1 => .array [nested n]

theorem Json.levels_nested (n : Nat) : (nested n).levels = n + 1 := by
  induction n with
  | zero => rfl
  | succ n ih =>
    simp only [nested, levels, itemLevels] at ih ⊢
    omega

theorem Json.normalize_nested (n : Nat) : (nested n).normalize = nested n := by
  induction n with
  | zero => rfl
  | succ n ih => simp only [nested, normalize, normalizeItems, ih]

theorem Json.numbers_nested (p : Number → Prop) (n : Nat) : (nested n).Numbers p := by
  induction n with
  | zero => trivial
  | succ n ih => exact ⟨ih, trivial⟩

/-- An issue with such metadata. -/
def Issue.nesting (n : Nat) : Issue :=
  { Issue.new "bd-1" "Fix the parser" with
    contentHash := "0"
    metadata := some (.nested n) }

theorem Issue.nesting_whole (n : Nat) : (Issue.nesting n).WholeMetadata := by
  rintro v ⟨⟩
  exact Json.numbers_nested _ n

theorem Issue.nesting_readable {n levels : Nat} (h : n < levels) :
    (Issue.nesting n).Readable levels := by
  refine .ofFields rfl rfl (by decide : (-2147483648 : Int) ≤ 2 ∧ (2 : Int) ≤ 2147483647) ?_
  rintro v ⟨⟩
  have shallow : (Json.nested n).levels ≤ levels := by
    rw [Json.levels_nested]
    exact h
  exact ⟨by cases n <;> rintro ⟨⟩, Json.normalize_nested n, shallow, Json.numbers_nested _ n⟩

/-! ## Reading the log -/

/-- An issue that is taken in as it was read can be read from its table, and the audit log gives
one event of it, with the issue as it was stored, if its metadata nests at most 125 levels; if it
nests deeper, the log can not be read. -/
theorem created_event_reads_back {text token : String} {given stored : Issue} {terms : Terms}
    {t u : Tables} (owned : t.EventsOwned)
    (four : 0 ≤ terms.now.date.year ∧ terms.now.date.year ≤ 9999)
    (read : Issue.parse text = .ok given) (whole : given.WholeMetadata)
    (created : (Tables.createIssue terms { given with spaceToken := token }).run t =
      (.ok stored, u)) :
    u.issue? stored.id = .ok (some stored.written) ∧
      u.eventsOf stored.id =
        if given.metadataLevels ≤ 125 then .ok [.created stored.written terms.actor terms.now]
        else .error (.database (.conversion 4 .tooDeep)) := by
  obtain ⟨decided, taken, rfl⟩ := Tables.createIssue_eq_ok_iff.1 created
  have sound := View.decision_sound decided
  have fresh := Tables.contains_eq_false_of_refusal taken
  have asRead : Issue.Readable 126 { given with spaceToken := token } :=
    (Issue.parse_yields text given read).1.congr rfl rfl rfl rfl
  obtain ⟨readable, metadata⟩ := View.readable_of_decision asRead decided
  have wholeStored : stored.WholeMetadata := by rwa [Issue.WholeMetadata, metadata]
  have levels : stored.metadataLevels = given.metadataLevels := by
    simp only [Issue.metadataLevels, metadata]
  constructor
  · have row := IssueRow.decode_encode sound readable (by decide) wholeStored
    simp only [Tables.issue?, Tables.book, Keyed.get?_insert, if_true, row]
    rfl
  · rw [Tables.eventsOf_book owned fresh,
      EventRow.decode_encode_created readable wholeStored terms.actor four, levels]
    split <;> rfl

/-- The last level of metadata that the log bears, and one level more. -/
theorem created_event_reads_back_nested :
    let terms : Terms := ⟨"ann", .strict, .epoch⟩
    let t := Tables.empty.setConfig Setting.issueSpace "bd"
    let stored (n : Nat) : Issue :=
      { Issue.nesting n with
        createdAt := some .epoch
        updatedAt := some .epoch }
    (Issue.parse (Issue.nesting 124).text = .ok (Issue.nesting 124) ∧
      (Tables.createIssue terms (Issue.nesting 124)).run t =
        (.ok (stored 124), t.book terms (stored 124)) ∧
      (t.book terms (stored 124)).eventsOf "bd-1" = .ok [.created (stored 124) "ann" .epoch]) ∧
    Issue.parse (Issue.nesting 125).text = .ok (Issue.nesting 125) ∧
      (Tables.createIssue terms (Issue.nesting 125)).run t =
        (.ok (stored 125), t.book terms (stored 125)) ∧
      (t.book terms (stored 125)).issue? "bd-1" = .ok (some (stored 125)) ∧
      (t.book terms (stored 125)).eventsOf "bd-1" =
        .error (.database (.conversion 4 .tooDeep)) := by
  intro terms t stored
  have owned : t.EventsOwned :=
    Tables.eventsOwned_of_run (.single (.configure Tables.empty Setting.issueSpace "bd"))
  have four : 0 ≤ terms.now.date.year ∧ terms.now.date.year ≤ 9999 := by decide
  have read : ∀ n, n < 126 → Issue.parse (Issue.nesting n).text = .ok (Issue.nesting n) :=
    fun n hn => Issue.parse_text (Issue.nesting_readable hn) (Issue.nesting_whole n)
  have levels : ∀ n, (Issue.nesting n).metadataLevels = n + 1 := Json.levels_nested
  have created : (Tables.createIssue terms (Issue.nesting 124)).run t =
        (.ok (stored 124), t.book terms (stored 124)) ∧
      (Tables.createIssue terms (Issue.nesting 125)).run t =
        (.ok (stored 125), t.book terms (stored 125)) := by
    constructor <;>
      exact Tables.createIssue_eq_ok_iff.2 ⟨by decide +kernel, by decide +kernel, rfl⟩
  have shallow := created_event_reads_back owned four (read 124 (by decide))
    (Issue.nesting_whole 124) created.1
  have deep := created_event_reads_back owned four (read 125 (by decide))
    (Issue.nesting_whole 125) created.2
  rw [levels, if_pos (by decide)] at shallow
  rw [levels, if_neg (by decide)] at deep
  exact ⟨⟨read 124 (by decide), created.1, shallow.2⟩, read 125 (by decide), created.2, deep⟩

end IssueIntake
