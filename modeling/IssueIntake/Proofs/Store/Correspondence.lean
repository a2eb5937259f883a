import IssueIntake.Proofs.Issue.Json
import IssueIntake.Proofs.Store.Counting
import IssueIntake.Store.Batch
/-!
# The two stores agree

A store in memory and tables correspond if the tables hold the encodings of what the store in
memory holds. Corresponding stores decide alike (`Corresponds.decision`), refuse alike
(`Corresponds.refusal`) and correspond again after the entry of the same issue
(`Corresponds.book`), so they do the same under single ingestions (`Corresponds.ingest`). The
database measures texts up to the first U+0000, so texts with that character are kept out. A status
that is spelled like that of closed issues without being it is kept out too: the rows of the tables
hold its spelling alone. Statuses that are made from names never are (`Issue.Readable.status_ne`).
-/

namespace IssueIntake

open Ingest

/-- A refusal of the store in memory in the words of the durable one. -/
def MemoryError.toStore : MemoryError → StoreError
  | .alreadyExists id => .alreadyExists id
  | .notFound id => .notFound id

/-- The row of an event, without the identifier that was drawn for it. -/
def EventRow.anonymous (r : EventRow) : EventRow :=
  { r with id := .fresh }

/-- Tables hold the encodings of what a store in memory holds. -/
structure Corresponds (m : Memory) (t : Tables) : Prop where
  config : t.config = m.config
  issues : t.issues = m.issues.map .encode
  events : t.events.map EventRow.anonymous = m.events.map fun e => (EventRow.encode e).anonymous
  dirty : t.dirty = m.dirty.map (·.text .stored)
  namelessIssues : t.namelessIssues = 0
  namelessMarks : t.namelessMarks = 0

/-- The namespace that is configured, if there is one, is measured as a whole. -/
def Memory.SpaceUnbroken (m : Memory) : Prop :=
  ∀ base, m.config.get? Setting.issueSpace = some base → Unbroken base

/-- The texts of an issue that the database measures are measured as a whole. -/
structure Issue.Measured (i : Issue) : Prop where
  title : Unbroken i.title
  token : Unbroken i.spaceToken

/-- A status that has been read is never spelled like another one. -/
theorem Issue.Readable.status_ne {levels : Nat} {i : Issue} (h : i.Readable levels) :
    i.status ≠ .custom "closed" := by
  intro spelled
  have normal := h.status
  rw [spelled] at normal
  exact absurd normal (by decide)

/-! ## Deciding -/

theorem Identifier.unbroken_space {base token : String} (hb : Unbroken base)
    (ht : Unbroken token) : Unbroken (Identifier.space base token) := by
  unfold Identifier.space Unbroken at *
  split <;> simp_all

namespace Corresponds

variable {m : Memory} {t : Tables}

theorem holds (h : Corresponds m t) : t.issues.contains = m.issues.contains := by
  funext id
  rw [h.issues, Keyed.contains_map]

theorem count (h : Corresponds m t) {space : String} (hs : Unbroken space) :
    t.countTopLevel space = m.countTopLevel space := by
  rw [t.countTopLevel_eq hs, h.issues, Keyed.keys_map, Memory.countTopLevel]

/-- Corresponding stores decide alike. -/
theorem decision (h : Corresponds m t) (spaced : m.SpaceUnbroken) {i : Issue} (hi : i.Measured)
    (terms : Terms) :
    t.view.decision terms i = (m.view.decision terms i : Decision _).map MemoryError.toStore := by
  rw [← View.decision_map]
  refine View.decision_congr (by simp only [Tables.view, Memory.view, h.config]) h.holds ?_
  intro space hspace
  have unbroken : Unbroken space := by
    simp only [View.space?, Tables.view, h.config] at hspace
    cases hb : m.config.get? Setting.issueSpace with
    | none => simp [hb] at hspace
    | some base =>
      simp only [hb] at hspace
      split at hspace
      · simp at hspace
      · cases hspace
        exact Identifier.unbroken_space (spaced base hb) hi.token
  exact h.count unbroken

/-- Corresponding stores refuse the same of the issues that they have admitted, but for a status
that is spelled like that of closed issues without being it: the tables know its spelling only. -/
theorem refusal (h : Corresponds m t) {terms : Terms} {i j : Issue} (title : Unbroken i.title)
    (admitted : m.view.decision terms i = ((.ok (), j) : Decision MemoryError)) :
    Tables.refusal? j t =
      if i.status = .custom "closed" then some (.database (.check .closing))
      else (Memory.refusal? j m).map MemoryError.toStore := by
  have sound := View.decision_sound admitted
  obtain ⟨_, _, _, _, _, _, hj⟩ :=
    (View.decision_frame m.view terms i : ∃ _ _ _ _ _ _, (_ : Decision MemoryError).2 = _)
  rw [admitted] at hj
  have kept : j.title = i.title ∧ j.status = i.status := by
    rw [show j = _ from hj]
    exact ⟨rfl, rfl⟩
  simp only [Tables.refusal?, IssueRow.brokenRule?_encode sound, kept.1, if_neg title.not_unseen,
    kept.2, Memory.refusal?, h.holds]
  by_cases spelled : i.status = .custom "closed"
  · simp [spelled]
  · by_cases taken : m.issues.contains j.id = true <;> simp [spelled, taken, MemoryError.toStore]

/-! ## Writing -/

theorem empty : Corresponds .empty .empty where
  config := rfl
  issues := rfl
  events := rfl
  dirty := rfl
  namelessIssues := rfl
  namelessMarks := rfl

theorem setConfig (h : Corresponds m t) (key value : String) :
    Corresponds (m.setConfig key value) (t.setConfig key value) :=
  { h with config := by simp only [Memory.setConfig, Tables.setConfig, h.config] }

/-- The same entry in both stores. -/
theorem book (h : Corresponds m t) (terms : Terms) (i : Issue) :
    Corresponds (m.book terms i) (t.book terms i) where
  config := h.config
  issues := by simp only [Memory.book, Tables.book, h.issues, Keyed.map_insert]
  events := by simp [Memory.book, Tables.book, h.events]
  dirty := by simp only [Memory.book, Tables.book, h.dirty, Keyed.map_insert]
  namelessIssues := h.namelessIssues
  namelessMarks := h.namelessMarks

/-! ## Taking issues in -/

/-- Corresponding stores do the same with an issue. -/
theorem ingest (h : Corresponds m t) (spaced : m.SpaceUnbroken) {i : Issue} (hi : i.Measured)
    (status : i.status ≠ .custom "closed") (terms : Terms) :
    let there := Ingest.ingest Tables.backend terms i t
    let here := Ingest.ingest Memory.backend terms i m
    there.result = here.result.mapError (·.map MemoryError.toStore) ∧
      there.issue = here.issue ∧ Corresponds here.store there.store := by
  dsimp only
  have refused : ∀ j, (m.view.decision terms i : Decision _) = (.ok (), j) →
      Tables.refusal? j t = (Memory.refusal? j m).map MemoryError.toStore :=
    fun _ hj => by rw [h.refusal hi.title hj, if_neg status]
  rw [ingest_booked Tables.backend_books, ingest_booked Memory.backend_books,
    h.decision spaced hi terms]
  generalize (m.view.decision terms i : Decision MemoryError) = decision at refused ⊢
  rcases decision with ⟨e | ok, j⟩
  · exact ⟨rfl, rfl, h⟩
  · have taken : Decision.map MemoryError.toStore (.ok ok, j) = (.ok ok, j) := rfl
    simp only [taken, refused j rfl]
    cases Memory.refusal? j m with
    | some e => exact ⟨rfl, rfl, h⟩
    | none => exact ⟨rfl, rfl, h.book terms j⟩

end Corresponds

end IssueIntake
