import IssueIntake.Ingest.Create
import IssueIntake.Store.Tables
/-!
# The durable store

What the durable store does in one transaction each: naming the store's namespace, taking one
issue in, and importing a batch. A batch is taken in with parents before their children and
otherwise in the order in which it is given, all of it or nothing.
-/

namespace IssueIntake

/-- Why a batch is not imported: the first record that failed, by its position in the batch and
the identifier that it had then. -/
structure BatchError (ε : Type) where
  position : Nat
  id : String
  cause : IngestError ε
  deriving DecidableEq, Repr

/-- How an issue without an identifier is called. -/
def unassigned : String := "<unassigned>"

/-- How a failed import is said, with the words for a failure of the store. -/
def BatchError.message {ε : Type} (showCause : ε → String) (e : BatchError ε) : String :=
  "import aborted at record " ++ toString e.position ++ " (" ++ e.id ++
    "); nothing was committed: " ++ e.cause.message showCause

/-- Who imports a batch, how, and when: the clock is read again for each record. -/
structure BatchTerms where
  actor : String
  mode : Mode
  clock : Nat → Instant

namespace BatchTerms

/-- The terms of the record that comes at a place in the order in which records are taken in. -/
def atPlace (terms : BatchTerms) (place : Nat) : Terms :=
  ⟨terms.actor, terms.mode, terms.clock place⟩

/-- The terms of a batch during which the clock stands still. -/
def still (terms : Terms) : BatchTerms :=
  ⟨terms.actor, terms.mode, fun _ => terms.now⟩

end BatchTerms

namespace Ingest

variable {σ ε : Type}

/-- Puts a record before the first one that is as deep or deeper. -/
def placeRecord (record : Issue × Nat) : List (Issue × Nat) → List (Issue × Nat)
  | [] => [record]
  | other :: rest =>
    if Identifier.depth record.1.id ≤ Identifier.depth other.1.id then record :: other :: rest
    else other :: placeRecord record rest

/-- The records of a batch with their positions, parents before their children. Records of the
same depth keep their order. -/
def ordered (batch : List Issue) : List (Issue × Nat) :=
  batch.zipIdx.foldr placeRecord []

/-- Takes one record of a batch in. -/
def ingestRecord (b : Backend σ ε) (terms : Terms) (record : Issue × Nat) :
    Call σ (BatchError ε) String := fun s =>
  match ingest b terms record.1 s with
  | ⟨.ok (), i, s⟩ => (.ok i.id, s)
  | ⟨.error cause, i, s⟩ =>
    (.error ⟨record.2, if i.id.isEmpty then unassigned else i.id, cause⟩, s)

/-- Takes records in, one after the other, each on its own terms, and answers with their
identifiers. -/
def ingestAll (b : Backend σ ε) :
    List (Terms × Issue × Nat) → Call σ (BatchError ε) (List String)
  | [] => pure []
  | (terms, record) :: rest => do
    let id ← ingestRecord b terms record
    let ids ← ingestAll b rest
    return id :: ids

/-- The records of a batch in the order in which they are taken in, each with its terms. -/
def schedule (terms : BatchTerms) (batch : List Issue) : List (Terms × Issue × Nat) :=
  (ordered batch).mapIdx fun place record => (terms.atPlace place, record)

end Ingest

namespace Tables

/-- Names the namespace of all identifiers, trimmed. It must not be blank or end in a dash. -/
def setSpace (space : String) : Call Tables StoreError Unit := fun t =>
  let trimmed := Text.trim space
  if trimmed.isEmpty || trimmed.toList.getLast? == some '-' then
    (.error (.invalidSpace trimmed), t)
  else (.ok (), t.setConfig Setting.issueSpace trimmed)

/-- Takes one issue in, through the calls of a store. -/
def createIssueBy (b : Backend Tables StoreError) (terms : Terms) (i : Issue) :
    Call Tables (IngestError StoreError × Issue) Issue :=
  (Ingest.ingestCall b terms i).atomically

/-- Takes one issue in. -/
def createIssue (terms : Terms) (i : Issue) :
    Call Tables (IngestError StoreError × Issue) Issue :=
  createIssueBy backend terms i

/-- Imports a batch through the calls of a store, all of it or nothing, and answers with the
identifiers in the order in which the records were taken in. -/
def importBatchBy (b : Backend Tables StoreError) (terms : BatchTerms) (batch : List Issue) :
    Call Tables (BatchError StoreError) (List String) :=
  (Ingest.ingestAll b (Ingest.schedule terms batch)).atomically

/-- Imports a batch at one instant, all of it or nothing. -/
def importBatch (terms : Terms) (batch : List Issue) :
    Call Tables (BatchError StoreError) (List String) :=
  importBatchBy backend (.still terms) batch

end Tables

end IssueIntake
