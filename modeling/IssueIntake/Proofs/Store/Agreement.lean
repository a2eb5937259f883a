import IssueIntake.Calendar.Epoch
import IssueIntake.Proofs.Store.Correspondence
/-!
# Whole runs of the two stores agree

`Move.run` is a run of a store: settings are changed and issues are taken in, each in a
transaction, and every move is answered. `stores_agree` says that corresponding stores answer each
move alike and correspond after it, and so do the empty stores after any number of moves, unless an
issue has a status that is spelled like that of closed issues without being it. There the two part
(`stores_part_at_spelled_status`): the rows of the tables hold the spelling alone.
-/

namespace IssueIntake

variable {σ ε δ : Type}

/-- Takes one issue in, as a transaction of the store in memory. -/
def Memory.createIssue (terms : Terms) (i : Issue) :
    Call Memory (IngestError MemoryError × Issue) Issue :=
  (Ingest.ingestCall backend terms i).atomically

/-! ## Runs -/

/-- What is done to a store. -/
inductive Move
  /-- A setting is changed. -/
  | configure (key value : String)
  /-- An issue is taken in, in a transaction. -/
  | create (terms : Terms) (i : Issue)

/-- How a store answers a move that takes an issue in: with the issue as it was stored, or with
the fault and the issue as its owner has it back. -/
abbrev Answer (ε : Type) :=
  Except (IngestError ε × Issue) Issue

/-- The same answer with the store's part of it put in other words. -/
def Answer.map (f : ε → δ) : Answer ε → Answer δ :=
  Except.mapError fun e => (e.1.map f, e.2)

/-- A store, by its changes of settings and its transactions. -/
structure Player (σ ε : Type) where
  setConfig : σ → String → String → σ
  create : Terms → Issue → Call σ (IngestError ε × Issue) Issue

namespace Move

/-- A move of a store: its answer, if one is given, and the state after it. -/
def perform (p : Player σ ε) : Move → σ → Option (Answer ε) × σ
  | configure key value, s => (none, p.setConfig s key value)
  | create terms i, s => (some ((p.create terms i).run s).1, ((p.create terms i).run s).2)

/-- Moves of a store, one after the other: the answers and the state after the last one. -/
def run (p : Player σ ε) : List Move → σ → List (Option (Answer ε)) × σ
  | [], s => ([], s)
  | move :: moves, s =>
    let (answer, s) := move.perform p s
    let (answers, s) := run p moves s
    (answer :: answers, s)

/-- The texts of a move that the database measures are measured as a whole. -/
def Measured : Move → Prop
  | configure key value => key = Setting.issueSpace → Unbroken value
  | create _ i => i.Measured

end Move

/-- The store in memory. -/
def Memory.player : Player Memory MemoryError := ⟨setConfig, createIssue⟩

/-- The tables. -/
def Tables.player : Player Tables StoreError := ⟨setConfig, createIssue⟩

/-! ## Agreement -/

namespace Corresponds

open Ingest

variable {m : Memory} {t : Tables}

/-- Transactions of corresponding stores are answered alike, and change nothing if they fail. -/
theorem createIssue (h : Corresponds m t) (spaced : m.SpaceUnbroken) {i : Issue}
    (hi : i.Measured) (status : i.status ≠ .custom "closed") (terms : Terms) :
    let there := (Tables.createIssue terms i).run t
    let here := (Memory.createIssue terms i).run m
    there.1 = Answer.map MemoryError.toStore here.1 ∧ Corresponds here.2 there.2 ∧
      ∀ e, here.1 = .error e → here.2 = m ∧ there.2 = t := by
  obtain ⟨result, issue, stores⟩ := h.ingest spaced hi status terms
  have answer : ((Tables.createIssue terms i).run t).1 =
      Answer.map MemoryError.toStore ((Memory.createIssue terms i).run m).1 := by
    rw [Tables.createIssue, Tables.createIssueBy, Memory.createIssue,
      ingestCall_atomically Tables.backend_books, ingestCall_atomically Memory.backend_books,
      ingestCall_run, ingestCall_run, result, issue]
    cases (Ingest.ingest Memory.backend terms i m).result <;> rfl
  refine ⟨answer, ?_, fun e failed => ⟨?_, ?_⟩⟩
  · rw [Tables.createIssue, Tables.createIssueBy, Memory.createIssue,
      ingestCall_atomically Tables.backend_books, ingestCall_atomically Memory.backend_books,
      ingestCall_run, ingestCall_run]
    exact stores
  · exact Call.atomically_state_of_error failed
  · rw [failed] at answer
    exact Call.atomically_state_of_error answer

/-- A change of a setting keeps the configured namespace measured. -/
theorem setConfig_spaceUnbroken (spaced : m.SpaceUnbroken) {key value : String}
    (h : key = Setting.issueSpace → Unbroken value) : (m.setConfig key value).SpaceUnbroken := by
  intro base hb
  simp only [Memory.setConfig, Keyed.get?_insert] at hb
  split at hb
  · next hk =>
    cases hb
    exact h hk.symm
  · exact spaced base hb

theorem createIssue_config (terms : Terms) (i : Issue) (m : Memory) :
    ((Memory.createIssue terms i).run m).2.config = m.config := by
  rw [Memory.createIssue, ingestCall_atomically Memory.backend_books, ingestCall_run,
    ingest_booked Memory.backend_books]
  rcases m.view.decision terms i with ⟨e | ok, j⟩
  · rfl
  · dsimp only
    cases Memory.refusal? j m <;> rfl

/-- Corresponding stores answer a move alike and correspond after it. -/
theorem perform (h : Corresponds m t) (spaced : m.SpaceUnbroken) {move : Move}
    (hm : move.Measured)
    (status : ∀ terms i, move = .create terms i → i.status ≠ .custom "closed") :
    let there := move.perform Tables.player t
    let here := move.perform Memory.player m
    there.1 = here.1.map (.map MemoryError.toStore) ∧ Corresponds here.2 there.2 ∧
      here.2.SpaceUnbroken := by
  cases move with
  | configure key value => exact ⟨rfl, h.setConfig key value, setConfig_spaceUnbroken spaced hm⟩
  | create terms i =>
    obtain ⟨answer, stores, -⟩ := h.createIssue spaced hm (status terms i rfl) terms
    refine ⟨congrArg some answer, stores, ?_⟩
    intro base hb
    exact spaced base (createIssue_config terms i m ▸ hb)

/-- Corresponding stores answer all moves of a run alike and correspond after it. -/
theorem run (moves : List Move) (h : Corresponds m t) (spaced : m.SpaceUnbroken)
    (hm : ∀ move ∈ moves, move.Measured)
    (status : ∀ terms i, .create terms i ∈ moves → i.status ≠ .custom "closed") :
    let there := Move.run Tables.player moves t
    let here := Move.run Memory.player moves m
    there.1 = here.1.map (·.map (.map MemoryError.toStore)) ∧ Corresponds here.2 there.2 := by
  induction moves generalizing m t with
  | nil => exact ⟨rfl, h⟩
  | cons move moves ih =>
    obtain ⟨answer, stores, spaced⟩ := h.perform spaced (hm move List.mem_cons_self)
      fun terms i here => status terms i (here ▸ List.mem_cons_self)
    obtain ⟨answers, stores⟩ := ih stores spaced
      (fun other ho => hm other (List.mem_cons_of_mem _ ho))
      fun terms i there => status terms i (List.mem_cons_of_mem _ there)
    exact ⟨by simp only [Move.run, answer, answers, List.map_cons], stores⟩

end Corresponds

/-- Corresponding stores answer the ingestion of an issue alike, correspond after it and are
unchanged if it fails; and empty stores do so over any run of moves. The texts that the database
measures hold no U+0000, and no status is spelled like that of closed issues without being it. -/
theorem stores_agree :
    (∀ (m : Memory) (t : Tables) (terms : Terms) (i : Issue),
      Corresponds m t → m.SpaceUnbroken → i.Measured → i.status ≠ .custom "closed" →
        let there := (Tables.createIssue terms i).run t
        let here := (Memory.createIssue terms i).run m
        there.1 = Answer.map MemoryError.toStore here.1 ∧ Corresponds here.2 there.2 ∧
          ∀ e, here.1 = .error e → here.2 = m ∧ there.2 = t) ∧
    ∀ moves : List Move, (∀ move ∈ moves, move.Measured) →
      (∀ terms i, .create terms i ∈ moves → i.status ≠ .custom "closed") →
      let there := Move.run Tables.player moves .empty
      let here := Move.run Memory.player moves .empty
      there.1 = here.1.map (·.map (Answer.map MemoryError.toStore)) ∧
        Corresponds here.2 there.2 := by
  constructor
  · intro m t terms i h spaced measured status
    exact h.createIssue spaced measured status terms
  · intro moves measured status
    have spaced : Memory.empty.SpaceUnbroken := by
      intro base hb
      simp [Memory.empty] at hb
    exact Corresponds.empty.run moves spaced measured status

/-- The configured namespace of a store is the one that was set last. -/
theorem Memory.spaceUnbroken_withSpace {space : String} (h : Unbroken space) :
    (Memory.withSpace space).SpaceUnbroken := by
  intro base hb
  obtain rfl : space = base := by
    simpa [Memory.withSpace, Memory.setConfig, Memory.empty, Keyed.get?_insert] using hb
  exact h

/-- Both stores take a complete issue in, by itself and in a run from nothing. -/
theorem stores_agree_first_issue :
    let terms : Terms := ⟨"ann", .strict, .epoch⟩
    let i := { Issue.new "bd-1" "Fix the parser" with contentHash := "0" }
    let m := Memory.withSpace "bd"
    let t := Tables.empty.setConfig Setting.issueSpace "bd"
    let moves := [.configure Setting.issueSpace "bd", .create terms i]
    (((Memory.createIssue terms i).run m).1.toOption.isSome = true ∧
      ((Tables.createIssue terms i).run t).1 =
        Answer.map MemoryError.toStore ((Memory.createIssue terms i).run m).1) ∧
      (Move.run Memory.player moves .empty).2.issues.keys = ["bd-1"] ∧
      Corresponds (Move.run Memory.player moves .empty).2
        (Move.run Tables.player moves .empty).2 := by
  intro terms i m t moves
  have spaced : m.SpaceUnbroken := Memory.spaceUnbroken_withSpace (by decide)
  have measured : i.Measured := ⟨by decide, by decide⟩
  have named : i.status ≠ .custom "closed" := by rintro ⟨⟩
  have moved : ∀ move ∈ moves, move.Measured :=
    List.forall_mem_cons.2 ⟨fun _ => by decide, List.forall_mem_singleton.2 measured⟩
  have created : ∀ terms' j, .create terms' j ∈ moves → j.status ≠ .custom "closed" := by
    intro terms' j there
    have same : Move.create terms' j = .create terms i := by simpa [moves] using there
    cases same
    exact named
  obtain ⟨single, whole⟩ := stores_agree
  exact ⟨⟨by decide +kernel, (single m t terms i (Corresponds.empty.setConfig _ _) spaced measured
    named).1⟩, by decide +kernel, (whole moves moved created).2⟩

/-- Where a custom status is named like the closed one, the store in memory takes an issue with that
custom status in, and the tables refuse its row. -/
theorem stores_part_at_spelled_status :
    let terms : Terms := ⟨"ann", .strict, .epoch⟩
    let i := { Issue.new "bd-1" "Fix the parser" with
      contentHash := "0"
      status := .custom "closed" }
    let m := (Memory.withSpace "bd").setNames Setting.statuses ["closed"]
    let t := (Tables.empty.setConfig Setting.issueSpace "bd").setNames Setting.statuses ["closed"]
    let stored := { i with createdAt := some .epoch, updatedAt := some .epoch }
    let here := (Memory.createIssue terms i).run m
    let there := (Tables.createIssue terms i).run t
    (Corresponds m t ∧ m.SpaceUnbroken ∧ i.Measured) ∧
      (here.1 = .ok stored ∧ here.2.issues.keys = ["bd-1"]) ∧
      there = (.error (.insertion "bd-1" (.database (.check .closing)), stored), t) ∧
      there.1 ≠ Answer.map MemoryError.toStore here.1 ∧ ¬ Corresponds here.2 there.2 := by
  intro terms i m t stored here there
  have spaced : m.SpaceUnbroken :=
    Corresponds.setConfig_spaceUnbroken (Memory.spaceUnbroken_withSpace (by decide))
      fun same => absurd same (by decide)
  have corresponds : Corresponds m t :=
    (Corresponds.empty.setConfig Setting.issueSpace "bd").setConfig Setting.statuses _
  have taken : here.1 = .ok stored ∧ here.2.issues.keys = ["bd-1"] := by decide +kernel
  have refused : there = (.error (.insertion "bd-1" (.database (.check .closing)), stored), t) := by
    decide +kernel
  refine ⟨⟨corresponds, spaced, by decide, by decide⟩, taken, refused, ?_, fun same => ?_⟩
  · rw [refused, taken.1]
    rintro ⟨⟩
  · have rows : t.issues.keys = here.2.issues.keys := by
      rw [← Keyed.keys_map IssueRow.encode here.2.issues, ← same.issues, refused]
    rw [taken.2] at rows
    exact absurd rows (by decide)

end IssueIntake
