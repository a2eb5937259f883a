import IssueIntake.Calendar.Epoch
import IssueIntake.Command.Run
import IssueIntake.Event.RandomId
import IssueIntake.Store.Snapshot
import Std.Time.DateTime.Timestamp
/-!
# The command

Runs one command on the files of the system. What lies at the paths that the command names is
loaded first; after the run what has changed is written back.
-/

namespace IssueIntake.Command

/-- What lies at a path, if anything does. -/
def loadNode (path : String) : IO (Option Node) := do
  try
    let bytes ← IO.FS.readBinFile path
    let tables := (String.fromUTF8? bytes).bind Snapshot.read?
    return some (match tables with
      | some tables => .database tables
      | none => .file bytes.toList)
  catch
    | .inappropriateType _ 21 _ => return some .directory
    | _ => return none

/-- The tree with what lies at a place. -/
def loadPlace (files : Files) (place : Place) : IO Files := do
  let some path := place.path? | return files
  match ← loadNode path with
  | some node => return files.put place node
  | none => return files

/-- Draws identifiers for the events that have none. -/
def drawIds (tables : Tables) : IO Tables := do
  let ids ← (List.range tables.freshEvents).mapM fun _ => do
    return EventId.ofRandom (← IO.getRandomBytes 16).toList
  return tables.nameEvents ids

/-- Writes what lies at a place, if it has changed. -/
def keepNode (before : Files) (place : Place) (node : Node) : IO Unit := do
  let some path := place.path? | return
  if before.nodeAt place = some node then return
  match node with
  | .directory => IO.FS.createDirAll path
  | .file content => IO.FS.writeBinFile path ⟨content.toArray⟩
  | .database tables => IO.FS.writeFile path (Snapshot.write (← drawIds tables))

/-- The paths that a command names: its database, as it is written and where its file is, and its
source. -/
def namedPaths (inv : Invocation) : List (List UInt8) :=
  let db := Text.utf8 inv.db
  let file := match Address.ofBytes db with
    | .ok address => if address.isInMemory then [] else [address.name]
    | .error _ => []
  match inv.request with
  | .importIssues source _ _ => db :: Text.utf8 source :: file
  | _ => db :: file

/-- The present. -/
def present : IO Instant := do
  let nanos := (← Std.Time.Timestamp.now).toNanosecondsSinceUnixEpoch.val
  match Instant.ofUnixNanos? nanos with
  | some now => return now
  | none => throw (IO.userError "the clock is out of range")

/-- Runs the command with the given words and answers with its exit code. -/
def main (words : List String) : IO UInt32 := do
  let env : Environment := ⟨← IO.getEnv "QUARRY_DB", ← IO.getEnv "QUARRY_ACTOR"⟩
  let invocation := (Invocation.ofWords env words).toOption
  let paths := (invocation.map namedPaths).getD []
  let before ← (paths.flatMap Path.places).foldlM loadPlace Files.empty
  let (ending, after) := run env (← present) words before
  after.nodes.reverse.forM fun (place, node) => keepNode before place node
  IO.print ending.output
  IO.eprint ending.errors
  return .ofNat ending.code

end IssueIntake.Command

def main (words : List String) : IO UInt32 :=
  IssueIntake.Command.main words
