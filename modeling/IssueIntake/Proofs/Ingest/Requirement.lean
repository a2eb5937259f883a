import IssueIntake.Proofs.Issue.Repair
import IssueIntake.Proofs.Store.Books
/-!
# Requirements

What an issue has to meet so that the store in memory takes it in, in the order in which it is
asked for. Everything is said of the issue as its owner gives it (`Requirement.Holds`), also where
ingestion looks at it after repair: `Issue.stampAfter` is a timestamp as repair leaves it. With each
requirement stands the fault of an issue that does not meet it (`Requirement.Fault`).

`Judged` says that a result is that of some requirements asked for one after the other.
-/

namespace IssueIntake

/-! ## Results of requirements -/

section Judged

variable {ρ ε δ α β : Type} {Holds : ρ → Prop} {Fault : ρ → ε → Prop}

/-- The result of requirements that are asked for one after the other: the first that does not hold
gives the fault. -/
def Judged (Holds : ρ → Prop) (Fault : ρ → ε → Prop) : List ρ → Except ε α → Prop
  | [], r => ∃ a, r = .ok a
  | q :: qs, r => (Holds q → Judged Holds Fault qs r) ∧ (¬ Holds q → ∃ e, r = .error e ∧ Fault q e)

namespace Judged

variable {r : Except ε α} {q : ρ} {qs ps : List ρ}

theorem ok_iff (h : Judged Holds Fault qs r) : (∃ a, r = .ok a) ↔ ∀ q ∈ qs, Holds q := by
  induction qs with
  | nil => exact ⟨fun _ q hq => absurd hq List.not_mem_nil, fun _ => h⟩
  | cons q qs ih =>
    rw [List.forall_mem_cons]
    by_cases hq : Holds q
    · rw [ih (h.1 hq), and_iff_right hq]
    · obtain ⟨e, rfl, -⟩ := h.2 hq
      simp [hq]

/-- The first requirement that does not hold gives the fault. -/
theorem error_of_first (h : Judged Holds Fault (ps ++ q :: qs) r) (held : ∀ p ∈ ps, Holds p)
    (broken : ¬ Holds q) : ∃ e, r = .error e ∧ Fault q e := by
  induction ps with
  | nil => exact h.2 broken
  | cons p ps ih =>
    obtain ⟨hp, held⟩ := List.forall_mem_cons.1 held
    exact ih (h.1 hp) held

/-- A result that is an error is the fault of one of the requirements. -/
theorem exists_fault {e : ε} (h : Judged Holds Fault qs (.error e : Except ε α)) :
    ∃ q ∈ qs, Fault q e := by
  induction qs with
  | nil =>
    obtain ⟨a, ha⟩ := h
    cases ha
  | cons q qs ih =>
    by_cases hq : Holds q
    · obtain ⟨p, hp, fault⟩ := ih (h.1 hq)
      exact ⟨p, List.mem_cons_of_mem q hp, fault⟩
    · obtain ⟨e', he, fault⟩ := h.2 hq
      cases he
      exact ⟨q, List.mem_cons_self, fault⟩

theorem met (hq : Holds q) (h : Judged Holds Fault qs r) : Judged Holds Fault (q :: qs) r :=
  ⟨fun _ => h, fun broken => absurd hq broken⟩

theorem broken (hq : ¬ Holds q) (error : ∃ e, r = .error e ∧ Fault q e) :
    Judged Holds Fault (q :: qs) r :=
  ⟨fun met => absurd met hq, fun _ => error⟩

/-- Requirements, and then others that are asked for once the first ones hold. -/
theorem bind {f : α → Except ε β} (h : Judged Holds Fault qs r)
    (next : ∀ a, r = .ok a → (∀ q ∈ qs, Holds q) → Judged Holds Fault ps (f a)) :
    Judged Holds Fault (qs ++ ps) (r >>= f) := by
  induction qs with
  | nil =>
    obtain ⟨a, rfl⟩ := h
    exact next a rfl fun q hq => absurd hq List.not_mem_nil
  | cons q qs ih =>
    refine ⟨fun hq => ih (h.1 hq) fun a ha hqs => ?_, fun hq => ?_⟩
    · exact next a ha (List.forall_mem_cons.2 ⟨hq, hqs⟩)
    · obtain ⟨e, rfl, fault⟩ := h.2 hq
      exact ⟨e, rfl, fault⟩

/-- Requirements that hold anyway may be added at the end. -/
theorem append (h : Judged Holds Fault qs r) (held : ∀ p ∈ ps, Holds p) :
    Judged Holds Fault (qs ++ ps) r := by
  induction qs with
  | nil =>
    induction ps with
    | nil => exact h
    | cons p ps ih =>
      obtain ⟨hp, held⟩ := List.forall_mem_cons.1 held
      exact .met hp (ih held)
  | cons q qs ih => exact ⟨fun hq => ih (h.1 hq), h.2⟩

/-- The same requirements, with their faults put in other words. -/
theorem mapError {Said : ρ → δ → Prop} {f : ε → δ}
    (h : Judged Holds (fun q e => Said q (f e)) qs r) : Judged Holds Said qs (r.mapError f) := by
  induction qs with
  | nil =>
    obtain ⟨a, rfl⟩ := h
    exact ⟨a, rfl⟩
  | cons q qs ih =>
    refine ⟨fun hq => ih (h.1 hq), fun hq => ?_⟩
    obtain ⟨e, rfl, fault⟩ := h.2 hq
    exact ⟨f e, rfl, fault⟩

end Judged

end Judged

/-! ## The requirements -/

/-- What an issue has to meet to be taken in. -/
inductive Requirement
  /-- A final timestamp that has to be filled in exists. -/
  | finalTime (stamp : Issue.Stamp)
  | titleGiven
  | titleShort
  | priority
  | status
  | issueType
  /-- A timestamp lies in the years that can be stored. -/
  | years (stamp : Issue.Stamp)
  /-- Only closed issues and tombstones have the time of closing. -/
  | closing
  /-- Only tombstones have the time of deletion. -/
  | deletion
  /-- A namespace is configured. -/
  | space
  /-- A draft can get an identifier. -/
  | freeCandidate
  /-- The identifier that an issue comes with lies in its namespace. -/
  | ownSpace
  /-- The identifier that an issue comes with is not taken. -/
  | newId

namespace Requirement

/-- All requirements, in the order in which they are asked for. -/
def all : List Requirement :=
  [finalTime .closedAt, finalTime .deletedAt, titleGiven, titleShort, priority, status, issueType,
    years .createdAt, years .updatedAt, years .closedAt, years .deletedAt, closing, deletion, space,
    freeCandidate, ownSpace, newId]

/-- An issue meets a requirement of a store in memory. -/
def Holds (m : Memory) (terms : Terms) (i : Issue) : Requirement → Prop
  | finalTime stamp => i.Lacks stamp → (i.latest terms.now).secondLater?.isSome = true
  | titleGiven => 1 ≤ i.title.length
  | titleShort => i.title.length ≤ 500
  | priority => 0 ≤ i.priority ∧ i.priority ≤ 4
  | status => i.status.isBuiltin = true ∨ i.status.name ∈ m.view.vocabulary.statuses
  | issueType => i.issueType.isBuiltin = true ∨ i.issueType.name ∈ m.view.vocabulary.types
  | years stamp => ∀ t, i.stampAfter terms.now stamp = some t → 0 ≤ t.date.year ∧ t.date.year ≤ 9999
  | closing => i.closedAt = none ∨ i.status = .closed ∨ i.status = .tombstone
  | deletion => i.deletedAt = none ∨ i.status = .tombstone
  | space => ∃ base, m.config.get? Setting.issueSpace = some base ∧ Text.trim base ≠ ""
  | freeCandidate => i.id = "" → ∀ base, m.config.get? Setting.issueSpace = some base →
    ∃ id ∈ m.view.candidates terms i (Identifier.space base i.spaceToken),
      m.issues.contains id = false
  | ownSpace => i.id ≠ "" → terms.mode = .trusted ∨
    ∀ base, m.config.get? Setting.issueSpace = some base → ∃ key : String,
      Identifier.isKey key.toList = true ∧ i.id = Identifier.space base i.spaceToken ++ "-" ++ key
  | newId => i.id ≠ "" → m.issues.contains i.id = false

/-- The fault of an issue that does not meet a requirement. -/
def Fault (m : Memory) (terms : Terms) (i : Issue) :
    Requirement → IngestError MemoryError → Prop
  | finalTime stamp, e => e = .violation (.timestampOutOfRange stamp (i.latest terms.now))
  | titleGiven, e => e = .violation .titleRequired
  | titleShort, e => e = .violation (.titleTooLong i.title.length)
  | priority, e => e = .violation (.priorityOutOfRange i.priority)
  | status, e => e = .violation (.unknownStatus i.status.name)
  | issueType, e => e = .violation (.unknownType i.issueType.name)
  | years stamp, e => ∃ t, i.stampAfter terms.now stamp = some t ∧
    e = .violation (.timestampOutOfRange stamp t)
  | closing, e => e = .violation (.closedAtOnOpenIssue i.status.name)
  | deletion, e => e = .violation (.deletedAtOnLiveIssue i.status.name)
  | space, e => e = .noSpace
  | freeCandidate, e => ∃ base, m.config.get? Setting.issueSpace = some base ∧
    e = .generation (.exhausted (Identifier.space base i.spaceToken)
      (Generate.keyLength (m.countTopLevel (Identifier.space base i.spaceToken))))
  | ownSpace, e => ∃ base, m.config.get? Setting.issueSpace = some base ∧ e = .wrongSpace
    (match Identifier.split i.id with
      | none => .malformed i.id
      | some (found, _) => .mismatch i.id (Identifier.space base i.spaceToken) found)
  | newId, e => e = .insertion i.id (.alreadyExists i.id)

end Requirement

end IssueIntake
