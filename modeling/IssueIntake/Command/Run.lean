import IssueIntake.Command.Invocation
import IssueIntake.Command.Report
import IssueIntake.Source.Lines
import IssueIntake.Store.Batch
import IssueIntake.Store.Failing
import IssueIntake.Store.Open
/-!
# Running a command

A command opens the database, makes its calls and reports what it has done. Opening makes a
database where there is none, also for a command that then fails. A source of issues is read before
the database is opened, so a source that cannot be read leaves everything as it is.

Issues are taken in within one transaction. The lists of names are replaced by one statement each,
outside of any transaction, and read back by two more: where one of these fails, what those before
it have written stays.
-/

namespace IssueIntake.Command

/-- Why a command fails. -/
inductive Failure
  | source (cause : SourceError)
  | store (cause : StoreError)
  | ingestion (cause : IngestError StoreError)
  | batch (cause : BatchError StoreError)
  | noIssue (id : String)
  deriving DecidableEq, Repr

/-- How a failure is said. -/
def Failure.message : Failure → String
  | source cause => cause.message
  | store cause => cause.message
  | ingestion cause => cause.message StoreError.message
  | batch cause => cause.message StoreError.message
  | noIssue id => "issue not found: " ++ id

/-- What a run meets besides its words and files: the readings of the clock, one for each issue
that is taken in, and the statements that fail. -/
structure Circumstances where
  clock : Nat → Instant
  faults : Faults

/-- The clock stands still, and no statement fails. -/
def Circumstances.calm (now : Instant) : Circumstances :=
  ⟨fun _ => now, .none⟩

/-- Opens the database at a path and makes a call to it, which depends on the statements that fail:
in a database that is read only these are more. What the call has changed is kept. -/
def onDatabase {α : Type} (path : String) (faults : Faults)
    (c : Faults → Call Tables Failure α) : Call Files Failure α := do
  let opened ← (Files.openDatabase path).mapError .store
  fun files =>
    match (c (faults.or (.readOnly opened.isReadOnly))).run opened.tables with
    | (r, tables) => (r, files.keep opened.storage tables)

/-- The issues in the file at a path, all with one token if one is given. -/
def readSource (path : String) (token : Option String) : Call Files Failure (List Issue) :=
  fun files =>
    match Source.readPath path (files.read path) with
    | .ok issues =>
      (.ok (issues.map fun i => { i with spaceToken := token.getD i.spaceToken }), files)
    | .error e => (.error (.source e), files)

/-- Something found in the tables by one statement. -/
def look {α : Type} (faults : Faults) (statement : Statement)
    (f : Tables → Except StoreError α) : Call Tables Failure α :=
  (faults.refuse statement fun t => (f t, t)).mapError .store

/-- A call that writes by one statement, which is put to the database only if the call finds no
fault by itself. -/
def writing {α : Type} (faults : Faults) (statement : Statement) (c : Call Tables StoreError α) :
    Call Tables Failure α := fun t =>
  match c.run t with
  | (.error e, _) => (.error (.store e), t)
  | (.ok a, changed) =>
    match faults t statement with
    | some cause => (.error (.store (.database cause)), t)
    | none => (.ok a, changed)

/-- Replaces a list of custom names, if one is given. -/
def replaceNames (faults : Faults) (key : String) (raw : Option String) :
    Call Tables Failure Unit :=
  match raw with
  | some raw =>
    let names := NameList.parse raw
    writing faults (.writeSetting key (NameList.format names)) (.change (·.setNames key names))
  | none => pure ()

/-- The custom names of the store. -/
def customNames (faults : Faults) : Call Tables Failure Vocabulary := do
  let b := Tables.failing faults
  let statuses ← (b.customNames Setting.statuses).mapError .store
  let types ← (b.customNames Setting.types).mapError .store
  return ⟨statuses, types⟩

/-- Replaces the lists of custom names that are given, and reports all names. -/
def replaceVocabulary (faults : Faults) (statuses types : Option String) :
    Call Tables Failure Report := do
  replaceNames faults Setting.statuses statuses
  replaceNames faults Setting.types types
  return .vocabulary (← customNames faults)

/-- Does what is asked for. -/
def Invocation.perform (inv : Invocation) (met : Circumstances) : Call Files Failure Report :=
  match inv.request with
  | .init space =>
    onDatabase inv.db met.faults fun faults => do
      let statement := .writeSetting Setting.issueSpace (Text.trim space)
      writing faults statement (Tables.setSpace space)
      return .initialized inv.db (Text.trim space)
  | .vocab statuses types =>
    onDatabase inv.db met.faults fun faults => replaceVocabulary faults statuses types
  | .create draft mode =>
    onDatabase inv.db met.faults fun faults => do
      let terms : Terms := ⟨inv.actor, mode, met.clock 0⟩
      let i ← faults.transaction .store
        ((Tables.createIssueBy (Tables.failing faults) terms draft).mapError (.ingestion ·.1))
      return .created inv.actor mode i
  | .importIssues source token mode => do
    let batch ← readSource source token
    onDatabase inv.db met.faults fun faults => do
      let ids ← faults.transaction .store
        ((Tables.importBatchBy (Tables.failing faults) ⟨inv.actor, mode, met.clock⟩ batch).mapError
          .batch)
      return .imported source mode ids
  | .showIssue id =>
    onDatabase inv.db met.faults fun faults => do
      match ← look faults (.readIssue id) (·.issue? id) with
      | some i => return .found i
      | none => .fail (.noIssue id)
  | .dirty =>
    onDatabase inv.db met.faults fun faults => do
      return .pending (← look faults .readMarks (·.markedIds))
  | .events id =>
    onDatabase inv.db met.faults fun faults => do
      return .history id (← look faults (.readEvents id) (·.eventsOf id))

/-! ## What the caller sees -/

/-- How a run ends. -/
inductive Ending
  | done (output : String)
  | failed (message : String)
  /-- The command line is not understood; nothing has been done. -/
  | misused (message : String)
  deriving DecidableEq, Repr

namespace Ending

/-- The exit code. -/
def code : Ending → Nat
  | done _ => 0
  | failed _ => 1
  | misused _ => 2

/-- What is written to the standard output. -/
def output : Ending → String
  | done s => s
  | failed _ | misused _ => ""

/-- What is written to the standard error. -/
def errors : Ending → String
  | done _ => ""
  | failed message | misused message => "error: " ++ message ++ "\n"

end Ending

/-- What is printed when the version is asked for. -/
def versionText : String := "quarry 0.1.0\n"

/-- What is printed when help is asked for, in place of the longer text that the command prints. -/
def helpText : String :=
  "Usage: quarry [--db <DB>] [--actor <ACTOR>] <COMMAND>\n\nCommands: " ++
    ", ".intercalate (Verb.all.map Verb.name) ++ "\n"

/-- Runs the command with the given words. What it prints is taken to reach the caller. -/
def runUnder (met : Circumstances) (env : Environment) (words : List String) (files : Files) :
    Ending × Files :=
  match Invocation.ofWords env words with
  | .error .help => (.done helpText, files)
  | .error .version => (.done versionText, files)
  | .error (.misuse cause) => (.misused cause.message, files)
  | .ok inv =>
    match (inv.perform met).run files.forAnother with
    | (.ok report, files) => (.done (report.text inv.asJson), files)
    | (.error e, files) => (.failed e.message, files)

/-- Runs the command while the clock stands still and no statement fails. -/
def run (env : Environment) (now : Instant) (words : List String) (files : Files) :
    Ending × Files :=
  runUnder (.calm now) env words files

end IssueIntake.Command
