import IssueIntake.Ingest.Error
import IssueIntake.Issue.Fingerprint
import IssueIntake.Issue.Repair
import IssueIntake.Text.Blank
/-!
# Taking an issue in

The one way into a store, for single issues as for batches. It has four phases: the vocabulary is
read; the issue is prepared (repaired, validated, given its fingerprint); its identifier is
generated or checked; and it is stored, with an event and a mark for the next export. Nothing is
written before the last phase. A failure leaves what earlier phases have done: whoever wants all or
nothing makes the call atomically.
-/

namespace IssueIntake

/-- How identifiers that come with an issue are treated. -/
inductive Mode
  /-- They have to lie directly in the issue's namespace. -/
  | strict
  /-- They are taken as they are. -/
  | trusted
  deriving DecidableEq, Repr

/-- Who takes an issue in, how, and when. -/
structure Terms where
  actor : String
  mode : Mode
  now : Instant

/-- What becomes of an issue: the result, the issue as its owner has it back, and the store. -/
structure Outcome (σ ε : Type) where
  result : Except (IngestError ε) Unit
  issue : Issue
  store : σ

namespace Issue

/-- The issue with a fingerprint, if it comes without. -/
def withFingerprint (i : Issue) : Issue :=
  if i.contentHash.isEmpty then { i with contentHash := i.fingerprint } else i

/-- Repairs and validates an issue and gives it a fingerprint. When it breaks a rule the repaired
issue is given back. -/
def prepare (i : Issue) (v : Vocabulary) (now : Instant) : Except Violation Unit × Issue :=
  match i.repair now with
  | (.error e, i) => (.error e, i)
  | (.ok _, i) =>
    match i.validate v with
    | .error e => (.error e, i)
    | .ok () => (.ok (), i.withFingerprint)

/-- An issue is prepared if it can be repaired and is valid then. -/
theorem prepare_eq_ok_iff {i j : Issue} {v : Vocabulary} {now : Instant} :
    i.prepare v now = (.ok (), j) ↔ ∃ repairs repaired, i.repair now = (.ok repairs, repaired) ∧
      repaired.validate v = .ok () ∧ j = repaired.withFingerprint := by
  unfold prepare
  rcases i.repair now with ⟨e | repairs, repaired⟩
  · simp
  · constructor
    · intro hj
      cases h : repaired.validate v with
      | error e => simp [h] at hj
      | ok => exact ⟨repairs, repaired, rfl, h, by simpa [h, eq_comm] using hj⟩
    · rintro ⟨_, _, hr, hv, rfl⟩
      cases hr
      simp [hv]

end Issue

namespace Ingest

variable {σ ε : Type}

/-- The vocabulary of a store, as it is at this moment. -/
def readVocabulary (b : Backend σ ε) : Call σ (IngestError ε) Vocabulary := do
  let statuses ← b.customStatuses.mapError .customStatuses
  let types ← b.customTypes.mapError .customTypes
  return ⟨statuses, types⟩

/-- The namespace for an issue's identifier. The configured one must not be blank. -/
def readSpace (b : Backend σ ε) (token : String) : Call σ (IngestError ε) String := do
  match ← (b.configValue Setting.issueSpace).mapError .config with
  | some base =>
    if (Text.trim base).isEmpty then .fail .noSpace else pure (Identifier.space base token)
  | none => .fail .noSpace

/-- The identifier under which an issue will be stored. -/
def assignId (b : Backend σ ε) (terms : Terms) (i : Issue) : Call σ (IngestError ε) String := do
  let space ← readSpace b i.spaceToken
  if i.id.isEmpty then
    (Generate.generate b space i terms.actor terms.now).mapError .generation
  else if terms.mode = .strict then
    match Identifier.checkSpace i.id space with
    | .ok () => pure i.id
    | .error e => .fail (.wrongSpace e)
  else pure i.id

/-- Stores a prepared issue, then its event, then its mark. -/
def store (b : Backend σ ε) (terms : Terms) (i : Issue) : Call σ (IngestError ε) Unit := do
  (b.insert i).mapError (.insertion i.id)
  (b.recordEvent (.created i terms.actor terms.now)).mapError (.recording i.id)
  (b.markDirty i.id terms.now).mapError (.marking i.id)

/-- Takes an issue in. -/
def ingest (b : Backend σ ε) (terms : Terms) (i : Issue) (s : σ) : Outcome σ ε :=
  match (readVocabulary b).run s with
  | (.error e, s) => ⟨.error e, i, s⟩
  | (.ok v, s) =>
    match i.prepare v terms.now with
    | (.error e, i) => ⟨.error (.violation e), i, s⟩
    | (.ok (), i) =>
      match (assignId b terms i).run s with
      | (.error e, s) => ⟨.error e, i, s⟩
      | (.ok id, s) =>
        let i := { i with id := id }
        match (store b terms i).run s with
        | (r, s) => ⟨r, i, s⟩

/-- Takes an issue in, as a call that answers with the issue as it was stored. A failure carries
the issue as its owner has it back. -/
def ingestCall (b : Backend σ ε) (terms : Terms) (i : Issue) :
    Call σ (IngestError ε × Issue) Issue := fun s =>
  match ingest b terms i s with
  | ⟨.ok (), i, s⟩ => (.ok i, s)
  | ⟨.error e, i, s⟩ => (.error (e, i), s)

end Ingest

end IssueIntake
