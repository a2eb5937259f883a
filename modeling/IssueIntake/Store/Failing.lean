import IssueIntake.Store.Tables
/-!
# Statements that fail

The store asks the database in single statements, and any of them can fail whatever it asks for: the
file can only be read, the disk is full, another process has locked the database, the statement is
interrupted. A statement that fails changes nothing. `Faults` says which statements fail and why; it
leaves open what makes them fail. The faults of opening a database are not among them.
-/

namespace IssueIntake

/-- A statement that is put to the database. -/
inductive Statement
  /-- Begins a transaction. -/
  | begin
  /-- Ends a transaction and keeps what it has changed. -/
  | commit
  | readSetting (key : String)
  | writeSetting (key value : String)
  | findIssue (id : String)
  /-- Reads the identifiers in a namespace, to count them. -/
  | listIssues (space : String)
  | readIssue (id : String)
  | insertIssue (i : Issue)
  | readEvents (id : String)
  | insertEvent (e : Event)
  | readMarks
  | setMark (id : String) (now : Instant)
  deriving DecidableEq, Repr

/-- Whether a statement writes. -/
def Statement.writes : Statement → Bool
  | writeSetting .. | insertIssue _ | insertEvent _ | setMark .. => true
  | begin | commit | readSetting _ | findIssue _ | listIssues _ | readIssue _ | readEvents _
  | readMarks => false

/-- Why a statement fails that is put while the tables hold something, if it fails. -/
def Faults : Type :=
  Tables → Statement → Option DatabaseError

namespace Faults

variable {ε α : Type}

/-- No statement fails. -/
def none : Faults := fun _ _ => .none

/-- In a database that is read only the statements that write fail. -/
def readOnly (isReadOnly : Bool) : Faults := fun _ statement =>
  if isReadOnly && statement.writes then some .readOnly else .none

/-- The faults of two kinds together. -/
def or (faults more : Faults) : Faults := fun t statement =>
  (faults t statement).or (more t statement)

theorem or_readOnly_false (faults : Faults) : faults.or (.readOnly false) = faults := by
  funext t statement
  exact Option.or_none

theorem or_readOnly_true (faults : Faults) (t : Tables) {statement : Statement}
    (writes : statement.writes = true) :
    ∃ cause, faults.or (.readOnly true) t statement = some cause := by
  cases fault : faults t statement with
  | none => exact ⟨.readOnly, by simp [or, readOnly, fault, writes]⟩
  | some cause => exact ⟨cause, by simp [or, fault]⟩

/-- A call that puts a statement to the database before anything else. -/
def refuse (faults : Faults) (statement : Statement) (c : Call Tables StoreError α) :
    Call Tables StoreError α := fun t =>
  match faults t statement with
  | some cause => (.error (.database cause), t)
  | .none => c t

theorem run_refuse_of_none {faults : Faults} {t : Tables} {statement : Statement}
    (h : faults t statement = .none) (c : Call Tables StoreError α) :
    (faults.refuse statement c).run t = c.run t := by
  simp only [Call.run, refuse, h]

theorem run_refuse_of_some {faults : Faults} {t : Tables} {statement : Statement}
    {cause : DatabaseError} (h : faults t statement = some cause)
    (c : Call Tables StoreError α) :
    (faults.refuse statement c).run t = (.error (.database cause), t) := by
  simp only [Call.run, refuse, h]

/-- A call in a transaction: if the call fails, or the transaction cannot be begun or committed,
nothing is changed. -/
def transaction (faults : Faults) (fault : StoreError → ε) (c : Call Tables ε α) :
    Call Tables ε α :=
  Call.atomically do
    (faults.refuse .begin (pure ())).mapError fault
    let a ← c
    (faults.refuse .commit (pure ())).mapError fault
    return a

end Faults

namespace Tables

/-- The calls of the durable store where statements may fail. -/
def failing (faults : Faults) : Backend Tables StoreError where
  configValue key := faults.refuse (.readSetting key) (backend.configValue key)
  issueExists id := faults.refuse (.findIssue id) (backend.issueExists id)
  countTopLevel space := faults.refuse (.listIssues space) (backend.countTopLevel space)
  insert i := faults.refuse (.insertIssue i) (backend.insert i)
  recordEvent e := faults.refuse (.insertEvent e) (backend.recordEvent e)
  markDirty id now := faults.refuse (.setMark id now) (backend.markDirty id now)

/-- The calls while the transaction is interrupted: every statement of it fails before it is begun.
The transaction itself goes on, and can be committed with what was written before. -/
def interrupted : Backend Tables StoreError :=
  failing fun _ _ => some .interrupted

end Tables

end IssueIntake
