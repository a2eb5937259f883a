import Mathlib.Control.Monad.Basic
import IssueIntake.Calendar.Epoch
import IssueIntake.Proofs.Ingest.StrictRun
import IssueIntake.Proofs.Store.Books
/-!
# Namespaces

A run in strict mode divides a store into namespaces, one for each token (`strict_runs_divide`). An
identifier belongs to the namespace of the token that its issue came with, whatever characters the
base namespace and the tokens are made of, so it can only be taken by an issue with the same token.
-/

namespace IssueIntake

/-! ## Both stores are indexed by identifiers -/

theorem Memory.backend_indexed : Memory.backend.Indexed Memory.view Memory.refusal?
    (fun terms i m => m.book terms i) Memory.setConfig .alreadyExists where
  toBooks := Memory.backend_books
  config_book _ _ _ := rfl
  holds_book _ i m id := Keyed.contains_insert m.issues i.id id i
  config_set m key value k := Keyed.get?_insert m.config key k value
  holds_set _ _ _ := rfl
  new _ _ := Memory.contains_eq_false_of_refusal
  taken _ _ _ := Memory.contains_of_refusal

theorem Tables.backend_indexed : Tables.backend.Indexed Tables.view Tables.refusal?
    (fun terms i t => t.book terms i) Tables.setConfig .alreadyExists where
  toBooks := Tables.backend_books
  config_book _ _ _ := rfl
  holds_book _ i t id := Keyed.contains_insert t.issues i.id id (.encode i)
  config_set t key value k := Keyed.get?_insert t.config key k value
  holds_set _ _ _ := rfl
  new _ _ := Tables.contains_eq_false_of_refusal
  taken _ _ _ := Tables.contains_of_refusal

/-! ## What a strict run leaves -/

variable {σ ε : Type}

/-- A store whose identifiers lie in namespaces below one base, as a log has it. -/
structure Namespaced (b : Backend σ ε) (alreadyExists : String → ε) (base : String)
    (log : List LogEntry) (s : σ) (ids : List String) : Prop where
  /-- What is stored is what was logged, and no identifier was logged twice. -/
  stored : (∀ id, id ∈ ids ↔ ∃ entry ∈ log, entry.id = id) ∧ (log.map LogEntry.id).Nodup
  /-- An identifier is made of the namespace of its token and a key, and splits into them. -/
  made : ∀ entry ∈ log, ∃ key : String,
    entry.id = Identifier.space base entry.token ++ "-" ++ key ∧
      Identifier.isKey key.toList = true ∧
      Identifier.split entry.id = some (Identifier.space base entry.token, key)
  /-- Different tokens have different identifiers. -/
  apart : ∀ entry ∈ log, ∀ other ∈ log, entry.token ≠ other.token → entry.id ≠ other.id
  /-- An issue collides with issues of its own token only. -/
  single : ∀ (terms : Terms) (i j : Issue) (id taken : String) (t : σ), terms.mode = .strict →
    (Ingest.ingestCall b terms i).atomically.run s =
      (.error (.insertion id (alreadyExists taken), j), t) → ⟨i.spaceToken, id⟩ ∈ log
  /-- A record of a batch collides with issues of its own token only, be they stored or earlier
  records of the batch. -/
  batch : ∀ (terms : BatchTerms) (batch : List Issue) (e : BatchError ε) (id taken : String)
    (t : σ), terms.mode = .strict →
    (Ingest.ingestAll b (Ingest.schedule terms batch)).atomically.run s = (.error e, t) →
    e.cause = .insertion id (alreadyExists taken) →
    ∃ before own i after ids u,
      Ingest.schedule terms batch = before ++ (own, i, e.position) :: after ∧
        (Ingest.ingestAll b before).run s = (.ok ids, u) ∧
        ⟨i.spaceToken, id⟩ ∈ log ++ LogEntry.ofRecords before ids

/-- A store that is divided by a log has its identifiers in namespaces. -/
theorem Divided.namespaced {b : Backend σ ε} {view : σ → View} {refusal? : Issue → σ → Option ε}
    {book : Terms → Issue → σ → σ} {setConfig : σ → String → String → σ}
    {alreadyExists : String → ε} {base : String} {log : List LogEntry} {s : σ} {ids : List String}
    (h : b.Indexed view refusal? book setConfig alreadyExists) (kept : Divided base log (view s))
    (held : ∀ id, (view s).holds id = true ↔ id ∈ ids) :
    Namespaced b alreadyExists base log s ids where
  stored := ⟨fun id => (held id).symm.trans (kept.holds id), kept.distinct⟩
  made entry there := by
    obtain ⟨key, split⟩ := kept.split entry there
    obtain ⟨whole, -, isKey⟩ := Identifier.split_eq_some_iff.1 split
    exact ⟨key, whole, isKey, split⟩
  apart entry there other there' different same := by
    obtain ⟨key, split⟩ := kept.split other there'
    rw [← same] at split
    exact different (kept.token_eq there split)
  single _ _ _ _ _ _ strict failed := kept.mem_of_create h strict failed
  batch _ _ _ _ _ _ strict failed cause := kept.mem_of_importBatch h strict failed cause

/-- What is done to a store in memory in strict mode, from nothing on. -/
abbrev Memory.StrictRun (base : String) : List LogEntry → Memory → Prop :=
  backend.StrictRun setConfig base empty

/-- What is done to the tables in strict mode, from nothing on. -/
abbrev Tables.StrictRun (base : String) : List LogEntry → Tables → Prop :=
  backend.StrictRun setConfig base empty

theorem Tables.importBatch_strictStep {terms : BatchTerms} (strict : terms.mode = .strict)
    (base : String) (batch : List Issue) (t : Tables) :
    backend.StrictStep setConfig base t
      (LogEntry.ofAnswer (Ingest.schedule terms batch)
        ((importBatchBy backend terms batch).run t).1)
      ((importBatchBy backend terms batch).run t).2 :=
  .importBatch t (.refl backend) terms strict batch

/-- Every run in strict mode from an empty store, with one setting of the namespace, leaves the
identifiers of every token in the namespace of that token, in either store. -/
theorem strict_runs_divide (base : String) :
    (∀ log m, Memory.StrictRun base log m →
      Namespaced Memory.backend .alreadyExists base log m m.issues.keys) ∧
    ∀ log t, Tables.StrictRun base log t →
      Namespaced Tables.backend .alreadyExists base log t t.issues.keys := by
  constructor
  · intro log m run
    have divided := Divided.run Memory.backend_indexed (fun _ => rfl) rfl run
    exact divided.namespaced Memory.backend_indexed fun id => Keyed.contains_iff_mem_keys
  · intro log t run
    have divided := Divided.run Tables.backend_indexed (fun _ => rfl) rfl run
    exact divided.namespaced Tables.backend_indexed fun id => Keyed.contains_iff_mem_keys

/-- A child in a namespace below the base and a draft in the base itself, in either store. The child
can not be taken in again: it collides with itself. -/
theorem strict_runs_divide_child_and_draft :
    let terms : Terms := ⟨"ann", .strict, .epoch⟩
    let child := { Issue.new "bd-x-web.1-a1.2" "Fix the parser" with
      spaceToken := "web.1"
      contentHash := "0" }
    let draft := { Issue.new "" "Test the parser" with contentHash := "0" }
    let log : List LogEntry := [⟨"", "bd-x-k5w"⟩, ⟨"web.1", "bd-x-web.1-a1.2"⟩]
    let m := ((Ingest.ingestCall Memory.backend terms child).atomically.run
      ((Ingest.ingestCall Memory.backend terms draft).atomically.run (Memory.withSpace "bd-x")).2).2
    let t := ((Tables.importBatchBy Tables.backend (.still terms) [child, draft]).run
      (Tables.empty.setConfig Setting.issueSpace "bd-x")).2
    Namespaced Memory.backend .alreadyExists "bd-x" log m m.issues.keys ∧
      Namespaced Tables.backend .alreadyExists "bd-x" log t t.issues.keys ∧
      ((Tables.importBatchBy Tables.backend (.still terms) [child]).run t).1 =
        .error ⟨0, child.id, .insertion child.id (.alreadyExists child.id)⟩ := by
  intro terms child draft log m t
  have inMemory : Memory.StrictRun "bd-x" log m := by
    have named : Memory.StrictRun "bd-x" [] (Memory.withSpace "bd-x") :=
      .step .start (.configure Memory.empty Setting.issueSpace "bd-x" fun _ => rfl)
    have run : Memory.StrictRun "bd-x" _ m :=
      (named.step (.create _ (.refl Memory.backend) terms rfl draft)).step
        (.create _ (.refl Memory.backend) terms rfl child)
    exact Eq.mp (congrArg (Memory.StrictRun "bd-x" · m) (by decide +kernel)) run
  have inTables : Tables.StrictRun "bd-x" log t := by
    have named : Tables.StrictRun "bd-x" [] (Tables.empty.setConfig Setting.issueSpace "bd-x") :=
      .step .start (.configure Tables.empty Setting.issueSpace "bd-x" fun _ => rfl)
    have run : Tables.StrictRun "bd-x" _ t :=
      named.step (Tables.importBatch_strictStep rfl "bd-x" [child, draft] _)
    exact Eq.mp (congrArg (Tables.StrictRun "bd-x" · t) (by decide +kernel)) run
  obtain ⟨memory, tables⟩ := strict_runs_divide "bd-x"
  exact ⟨memory log m inMemory, tables log t inTables, by decide +kernel⟩

end IssueIntake
